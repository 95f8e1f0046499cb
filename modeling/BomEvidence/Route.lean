import BomEvidence.Language

/-!
Routes in code. Literals are what stands between two quotation marks of one line,
whichever of the two marks each is; a language's rule chooses the literals that
look like routes. Ruby code is read by the words of its routing language instead.
-/

namespace BomEvidence.Route

def isQuote (c : Char) : Bool := c = '\'' || c = '"'

/-- Reads literals. The characters since an open quotation mark are in reverse; a
line that ends leaves the mark without effect. -/
def literalsFrom : (opened : Option (List Char)) → List Char → List (List Char)
  | _, [] => []
  | none, c :: code => literalsFrom (if isQuote c then some [] else none) code
  | some done, c :: code =>
      if isQuote c then done.reverse :: literalsFrom none code
      else if c = '\n' then literalsFrom none code
      else literalsFrom (some (c :: done)) code

def literals (code : String) : List String :=
  (literalsFrom none code.toList).map String.ofList

/-- A literal with a slash that does not begin like a relative path or an annotation. -/
def isPath (literal : String) : Bool :=
  literal != "" && !Text.startsWith literal "." && Text.contains literal "/" &&
    !Text.startsWith literal "@"

def isMapping (code : String) : Bool :=
  Text.startsWith code "@" && (Text.contains code "Mapping" || Text.contains code "Path") &&
    Text.contains code "("

def mentionsRouter (code : String) : Bool := Text.contains code "app." || Text.contains code "route"

def isMediaType (literal : String) : Bool :=
  Text.startsWith literal "application/" || Text.startsWith literal "text/"

def isLongPath (literal : String) : Bool := 2 < literal.length && Text.contains literal "/"

/-- The verbs of the routing language. A later one wins over an earlier one. -/
def verbs : List String := ["get", "post", "delete", "options", "put", "head"]

def wordAfterLast? (code marker : String) : Option String :=
  (Text.afterLast code marker).map fun rest => Text.before rest " "

def withoutQuotes (word : String) : String :=
  String.ofList (word.toList.filter fun c => !isQuote c)

/-- The routes of Ruby code: complete addresses between double quotes, and the
namespace joined with the path of a verb. -/
def rubyRoutes (code : String) : List String :=
  let code := Text.replace code "..." ""
  let space :=
    ((wordAfterLast? code "namespace ").or (wordAfterLast? code "collection do get ")).getD ""
  let path := verbs.foldl (fun path verb => (wordAfterLast? code (verb ++ " ")).getD path) ""
  let addresses :=
    if Text.contains code "http" && Text.contains code "\"" then
      (Text.split code "\"").filter fun piece => Text.startsWith piece "http"
    else []
  let joined :=
    if space != "" || path != "" then [withoutQuotes space ++ withoutQuotes path] else []
  (addresses ++ joined).filter fun route =>
    1 < route.length && !Text.startsWith route "." && route != "https:/"

def extract (language : Language) (code : String) : List String :=
  if code = "" then []
  else
    match language with
    | .java | .jar => if isMapping code then (literals code).filter isPath else []
    | .javascript | .typescript =>
        if mentionsRouter code then
          (literals code).filter fun literal => isPath literal && !isMediaType literal
        else []
    | .ruby => rubyRoutes code
    | .python | .php | .c | .cpp | .swift => (literals code).filter isLongPath

end BomEvidence.Route
