import BomEvidence.Json.Decode
import BomEvidence.Text.Case
import BomEvidence.Text.Search

/-!
The languages of analysed code, their names, and the language that a package URL stands for.
-/

namespace BomEvidence

/-- A language of analysed code. `jar` is compiled code of the Java machine. -/
inductive Language where
  | java
  | jar
  | javascript
  | typescript
  | python
  | php
  | ruby
  | c
  | cpp
  | swift
  deriving DecidableEq, Repr, Inhabited

namespace Language

def all : List Language :=
  [.java, .jar, .javascript, .typescript, .python, .php, .ruby, .c, .cpp, .swift]

def name : Language → String
  | .java => "java"
  | .jar => "jar"
  | .javascript => "javascript"
  | .typescript => "typescript"
  | .python => "python"
  | .php => "php"
  | .ruby => "ruby"
  | .c => "c"
  | .cpp => "cpp"
  | .swift => "swift"

/-- The accepted tags: each canonical name, followed by its short form if it has one. -/
def tags : List (String × Language) :=
  [("java", .java), ("jar", .jar), ("javascript", .javascript), ("js", .javascript),
    ("typescript", .typescript), ("ts", .typescript), ("python", .python), ("py", .python),
    ("php", .php), ("ruby", .ruby), ("rb", .ruby), ("c", .c), ("cpp", .cpp), ("c++", .cpp),
    ("swift", .swift)]

/-- The language of a tag, with blanks around it and in any case. -/
def ofTag? (tag : String) : Option Language := tags.lookup (Text.lower (Text.trim tag))

def ofName? (name : String) : Option Language := all.find? fun language => language.name = name

theorem of_name_name (language : Language) : ofName? language.name = some language := by
  cases language <;> decide

theorem of_tag_name (language : Language) : ofTag? language.name = some language := by
  cases language <;> decide

def isJvm (language : Language) : Bool := language = .java || language = .jar

def isJavaScript (language : Language) : Bool :=
  language = .javascript || language = .typescript

def toJson (language : Language) : Json := .text language.name

/-- A language is read from its name, alone or as the one key of an object over `null`. -/
def ofTree? : Json.Tree.Reader Language
  | .text name => ofName? name
  | .object [(name, .null)] => ofName? name
  | _ => none

/-- The language of the packages that a package URL belongs to. An archive at the
given path tells compiled code from source. -/
def ofPurl? (purl : String) (path : Option String) : Option Language := do
  let rest ← Text.withoutStart? purl "pkg:"
  match Text.lower (Text.before rest "/") with
  | "maven" => some (if path.any fun file => Text.endsWith file ".jar" then .jar else .java)
  | "npm" => some .javascript
  | "pypi" => some .python
  | "composer" => some .php
  | "gem" => some .ruby
  | "generic" => some .c
  | _ => none

end Language

end BomEvidence
