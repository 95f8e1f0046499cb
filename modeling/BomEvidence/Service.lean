import BomEvidence.Route
import BomEvidence.Slice.Usage
import BomEvidence.Symbol.Traits

/-!
Services of the analysed code. The routes that the usages of an object mention are
endpoints of the service of that object; a mention of authentication beside them
makes the service authenticated, which is then also a boundary of trust.
-/

namespace BomEvidence

structure Service where
  endpoints : TextSet
  authenticated : Option Bool
  trustBoundary : Option Bool
  deriving DecidableEq, Repr

abbrev ServiceMap := TextMap Service

namespace Service

/-- A service without endpoints. An authenticated one is a boundary of trust. -/
def new (authenticated : Option Bool) : Service :=
  ⟨∅, authenticated, if authenticated = some true then some true else none⟩

/-- The service with the mark of authentication, which it keeps. -/
def markAuthenticated (service : Service) : Service :=
  { service with authenticated := some true, trustBoundary := some true }

/-- The name of the service of an object: from its full name, or else from its file,
or else `service`. It always ends in `service`. -/
def nameOf (object : ObjectSlice) : String :=
  let stem :=
    match object.fullName.filter (· != ""), object.file.filter (· != "") with
    | some fullName, _ => Text.replace (Text.before fullName ":") "." "-"
    | none, some file => Text.before (fileNameOrPath file) "."
    | none, none => "service"
  if Text.endsWith stem "service" then stem else stem ++ "-service"

def mentionsAuthentication (method : String) : Bool := Text.contains (Text.lower method) "auth"

def rubyRoute? (language : Language) (usage : Usage) : Option String :=
  match language, usage.definedBy.bind ObjectRef.name with
  | .ruby, some name => if Text.contains name "/" then some name else none
  | _, _ => none

/-- The method of the target, or else that of the definition. -/
def usageMethod? (usage : Usage) : Option String :=
  (usage.target.bind ObjectRef.resolvedMethod).or (usage.definedBy.bind ObjectRef.resolvedMethod)

/-- The methods of the calls of a usage, in languages whose methods are searched. -/
def calledMethods (language : Language) (usage : Usage) : List String :=
  if language.traits.scansMethods then usage.invokedCalls.filterMap Call.resolvedMethod else []

def inspectedMethods (language : Language) (usage : Usage) : List String :=
  match rubyRoute? language usage with
  | some _ => calledMethods language usage
  | none => (usageMethod? usage).toList ++ calledMethods language usage

def usageRoutes (language : Language) (usage : Usage) : List String :=
  let own :=
    match rubyRoute? language usage with
    | some name => Route.extract language name
    | none =>
        if language.traits.scansMethods then
          ((usageMethod? usage).map (Route.extract language)).getD []
        else []
  own ++ (calledMethods language usage).flatMap (Route.extract language)

def detectUsage (language : Language) (name : String) (services : ServiceMap) (usage : Usage) :
    ServiceMap :=
  let routes := usageRoutes language usage
  if routes.isEmpty then services
  else
    services.alter name fun held =>
      let service := held.getD (new none)
      let service :=
        if (inspectedMethods language usage).any mentionsAuthentication then
          service.markAuthenticated
        else service
      { service with endpoints := service.endpoints.insertAll routes }

def detectUsages (language : Language) (object : ObjectSlice) (services : ServiceMap) :
    ServiceMap :=
  object.usages.foldl (detectUsage language (nameOf object)) services

def routeWords : List String :=
  ["route", "path", "url", "registerhandler", "endpoint", "api", "add_method", "get", "post",
    "delete", "put", "head", "options", "connect"]

def nameOfFile (file : Option String) : String :=
  match file with
  | some file => fileNameOrPath (Text.replace file ".py" "") ++ "-service"
  | none => "service"

/-- The routes of a type: those of its first field, if its name speaks of routes. -/
def typeRoutes (language : Language) (type : UserType) : List String :=
  let name := Text.lower type.name
  if routeWords.any fun word => Text.contains name word then
    match type.fields.head?.bind Field.name with
    | some field => if 1 < field.length then Route.extract language field else []
    | none => []
  else []

def detectType (language : Language) (services : ServiceMap) (type : UserType) : ServiceMap :=
  let routes := typeRoutes language type
  if routes.isEmpty then services
  else
    services.alter (nameOfFile type.file) fun held =>
      let service := held.getD (new (some false))
      { service with endpoints := service.endpoints.insertAll routes }

def detectTypes (language : Language) (types : List UserType) (services : ServiceMap) :
    ServiceMap :=
  if language.traits.typesAreServices then types.foldl (detectType language) services else services

end Service

end BomEvidence
