import BomEvidence.Slice.Usage
import BomEvidence.Symbol.Basic

/-!
Mentions of symbols in usage slices. An object mentions the symbols of its usages, as
they are and reduced to classes; a mention may know its line. A symbol is looked up
once for an object, and its place there is the first one that a mention knows.
-/

namespace BomEvidence

/-- A symbol to look up, and the line where it stands if that is exact. -/
structure Mention where
  symbol : String
  line : Option UInt64
  deriving DecidableEq, Repr

namespace Mention

/-- Symbols without meaning, which only count where they are known to be external. -/
def emptyMarkers : List String := ["ANY", "(...)", "<empty>"]

/-- The module path in front of a JavaScript or Ruby symbol. -/
def modulePath (symbol : String) : String :=
  Symbol.withoutArrays (Text.replace (Text.before symbol "::") ":" "/")

/-- What a symbol as it is mentions. Symbols with parentheses and those of Python
files are not looked up as they are; where the line is not `exact`, it is left out. -/
def ofName (language : Language) (symbol : String) (line : Option UInt64) (exact : Bool) :
    List Mention :=
  if Text.contains symbol "(" || Text.contains symbol ".py" then []
  else if !exact || line.isNone then [⟨Symbol.withoutArrays symbol, none⟩]
  else
    let path :=
      if language.traits.callNodeLines && Text.contains symbol ":" then
        [⟨modulePath symbol, none⟩]
      else []
    path ++ [⟨Symbol.withoutArrays symbol, line⟩]

/-- What a symbol mentions: itself and its class, unless it is filtered. -/
def ofSymbol (language : Language) (userTypes : TextSet) (symbol : String) (line : Option UInt64)
    (exact : Bool) : List Mention :=
  if Symbol.isFilterable language userTypes symbol then []
  else
    ofName language symbol line exact ++
      (Symbol.className? language symbol).toList.map fun name => ⟨name, line⟩

/-- An annotation or an import without usages mentions its full name. -/
def ofHead (object : ObjectSlice) : List Mention :=
  let isMarked := object.signature.any fun signature => Text.startsWith signature "@"
  let isImport := object.code.any fun code => Text.startsWith code "use"
  if object.usages.isEmpty && (isMarked || isImport) then
    (object.fullName.filter (· != "")).toList.map fun name => ⟨name, object.line⟩
  else []

/-- The symbols of a usage with whether they are known to be external. -/
def typedSymbols (usage : Usage) : List (Option Bool × String) :=
  let ofRef (ref : Option ObjectRef) (symbol : ObjectRef → Option String) :=
    (ref.bind fun ref => (symbol ref).map fun text => (ref.isExternal, text)).toList
  let definedName := (usage.definedBy.bind ObjectRef.name).map fun name =>
    (some (Text.contains name "::"), name)
  ofRef usage.target ObjectRef.typeName ++ ofRef usage.target ObjectRef.resolvedMethod ++
    definedName.toList ++ ofRef usage.definedBy ObjectRef.typeName ++
    ofRef usage.definedBy ObjectRef.resolvedMethod ++
    usage.fields.filterMap fun field => field.typeName.map fun text => (field.isExternal, text)

/-- Whether a symbol is considered. One that is known to be internal is not. -/
def isConsidered : Option Bool × String → Bool
  | (some isExternal, _) => isExternal
  | (none, symbol) => symbol ∉ emptyMarkers

/-- The name of a call that is annotated or belongs to a scope. -/
def scopedName? (call : Call) : Option String :=
  if Text.startsWith (call.resolvedMethod.getD "") "@" || Text.contains (call.name.getD "") "::" then
    some (call.name.getD "")
  else none

/-- What a call mentions. A call that is known to be internal mentions nothing, unless
it is annotated or belongs to a scope. -/
def ofCall (language : Language) (userTypes : TextSet) (call : Call) : List Mention :=
  let signatures :=
    ofSymbol language userTypes (call.resolvedMethod.getD "") call.line true ++
      call.parameterTypes.flatMap fun type => ofSymbol language userTypes type call.line true
  match scopedName? call with
  | some name => (if name = "" then [] else [⟨name, call.line⟩]) ++ signatures
  | none => if call.isExternal = some false then [] else signatures

def ofUsage (language : Language) (userTypes : TextSet) (usage : Usage) : List Mention :=
  (((typedSymbols usage).filter isConsidered).flatMap fun (_, symbol) =>
      ofSymbol language userTypes symbol usage.line language.traits.callNodeLines) ++
    usage.calls.flatMap (ofCall language userTypes)

def ofObject (language : Language) (userTypes : TextSet) (object : ObjectSlice) : List Mention :=
  ofHead object ++ object.usages.flatMap (ofUsage language userTypes)

def symbols (mentions : List Mention) : TextSet := .ofList (mentions.map Mention.symbol)

/-- The line of the first mention of a symbol that knows one. -/
def line? (mentions : List Mention) (symbol : String) : Option UInt64 :=
  (mentions.find? fun mention => mention.symbol = symbol && mention.line.isSome).bind Mention.line

end Mention

end BomEvidence
