import BomEvidence.Sorted.TextSet
import BomEvidence.Symbol.Traits

/-!
Symbols of analyser slices. A symbol is either filtered, since it cannot name an
outside package, or reduced to the name of the class or module that declares it.
-/

namespace BomEvidence.Symbol

/-- Names that stand for a missing type, in any case. -/
def placeholders : List String := ["ANY", "UNKNOWN", "VOID", "IMPORT"]

/-- Starts of names that analysers and compilers make up. -/
def syntheticStarts : List String :=
  ["<operator", "<unresolved", "<unknownFullName", "__builtin", "LAMBDA", "../"]

/-- Starts of names that stay without a declaring class. -/
def unresolvedStarts : List String := ["<unresolved", "<operator", "<unknownFullName"]

def startsWithAny (symbol : String) (starts : List String) : Bool :=
  starts.any fun start => Text.startsWith symbol start

/-- Names of the Java platform, and names without a package. -/
def isJvmNoise (symbol : String) : Bool :=
  !Text.contains symbol "." || Text.startsWith symbol "@" ||
    startsWithAny symbol ["java.", "sun.", "jdk.", "org.w3c.", "org.xml.", "javax.xml."]

def isJavaScriptNoise (symbol : String) : Bool :=
  Text.contains symbol ".js" || Text.contains symbol "=>" ||
    startsWithAny symbol ["__", "\x7b ", "JSON", "void:", "node:"]

/-- Names without a namespace, unless they are imports. -/
def isPhpNoise (symbol : String) : Bool :=
  !Text.contains symbol "\\" && !Text.startsWith symbol "use"

def isPythonNoise (symbol : String) : Bool := startsWithAny symbol ["tmp", "self.", "_", "def "]

/-- Names without a capital letter, besides those of the core library. -/
def isRubyNoise (symbol : String) : Bool :=
  symbol = "<empty>" || Text.startsWith symbol "__core." || Text.startsWith symbol "@" ||
    Text.isLower symbol

/-- Whether a symbol belongs to its language and not to a package. -/
def isNoise : Language → String → Bool
  | .java, symbol | .jar, symbol => isJvmNoise symbol
  | .javascript, symbol | .typescript, symbol => isJavaScriptNoise symbol
  | .python, symbol => isPythonNoise symbol
  | .php, symbol => isPhpNoise symbol
  | .ruby, symbol => isRubyNoise symbol
  | .c, _ | .cpp, _ | .swift, _ => false

/-- Cuts `package.Class.method:descriptor` down to `package.Class`. -/
def jvmCanonical (symbol : String) : String :=
  if Text.contains symbol ":" then
    Text.join "." (Text.split (Text.before symbol ":") ".").dropLast
  else symbol

/-- Cuts `package:path/file::Class:method` down to the path of its module. A call
of a constructor or an awaited call loses its mark first. -/
def javaScriptCanonical (symbol : String) : String :=
  let symbol := Text.replaceFirst (Text.replaceFirst symbol "new: " "") "await " ""
  if Text.contains symbol ":" then
    Text.directory (Text.replace (Text.before symbol "::") ":" "/")
  else symbol

def phpCanonical (symbol : String) : String := Text.before (Text.before symbol "->") "::"

/-- What the analyser appends to the names of modules and functions. -/
def pythonDecorations : List String :=
  [".<metaClassCallHandler>", ".<fakeNew>", ".<body>", ".__iter__", ".__init__"]

/-- Turns `folder/file.py:<module>.name` into `file.name`. -/
def pythonCanonical (symbol : String) : String :=
  let file := (Text.afterLast symbol "/").getD symbol
  pythonDecorations.foldl (fun name decoration => Text.replace name decoration "")
    (Text.replace file ".py:<module>" "")

def rubyCanonical? (symbol : String) : Option String :=
  if symbol = "<empty>" || Text.startsWith symbol "__core." then none
  else
    let head := Text.before symbol "::"
    some ((Text.afterLast head " ").getD head)

/-- The name without what its language puts around it, if anything can be found by it. -/
def canonical? : Language → String → Option String
  | .java, symbol | .jar, symbol => some (jvmCanonical symbol)
  | .javascript, symbol | .typescript, symbol => some (javaScriptCanonical symbol)
  | .python, symbol => some (pythonCanonical symbol)
  | .php, symbol => some (phpCanonical symbol)
  | .ruby, symbol => rubyCanonical? symbol
  | .c, symbol | .cpp, symbol | .swift, symbol => some symbol

def withoutArrays (symbol : String) : String := Text.replace symbol "[]" ""

def className? (language : Language) (symbol : String) : Option String := do
  let name ← canonical? language symbol
  if startsWithAny name unresolvedStarts then none
  else
    let simple := withoutArrays (Text.before name "$")
    if simple = "" then none else some simple

/-- Whether a symbol is not looked up: it is empty, a placeholder, synthetic, noise of
its language, or defined in the analysed code itself. -/
def isFilterable (language : Language) (userTypes : TextSet) (symbol : String) : Bool :=
  symbol = "" || Text.capitals symbol ∈ placeholders || startsWithAny symbol syntheticStarts ||
    isNoise language symbol || symbol ∈ userTypes

@[simp] theorem is_filterable_empty (language : Language) (userTypes : TextSet) :
    isFilterable language userTypes "" = true := by simp [isFilterable]

theorem is_filterable_of_mem {language : Language} {userTypes : TextSet} {symbol : String}
    (member : symbol ∈ userTypes) : isFilterable language userTypes symbol = true := by
  simp [isFilterable, member]

theorem class_name_ne_empty {language : Language} {symbol name : String}
    (reduced : className? language symbol = some name) : name ≠ "" := by
  simp only [className?, Option.bind_eq_bind, Option.bind_eq_some_iff] at reduced
  obtain ⟨_, _, rest⟩ := reduced
  split at rest
  · simp at rest
  · split at rest
    · simp at rest
    · rename_i nonempty
      exact fun empty => nonempty (by simpa [empty] using rest)

end BomEvidence.Symbol
