import BomEvidence.Language

/-!
What differs between languages when symbols are matched with packages.
-/

namespace BomEvidence

inductive AliasMatch where
  /-- The two are the same. -/
  | exact
  /-- One of the two is the start of the other. -/
  | overlap
  deriving DecidableEq, Repr

structure AliasProperty where
  name : String
  separator : String
  deriving DecidableEq, Repr

structure Traits where
  /-- Exact lines are known of calls alone. -/
  callNodeLines : Bool
  aliasMatch : AliasMatch
  aliasProperty : AliasProperty
  /-- References to methods are searched for routes. -/
  scansMethods : Bool
  /-- User-defined types whose names speak of routes are services. -/
  typesAreServices : Bool
  deriving DecidableEq, Repr

def importedModules : AliasProperty := ⟨"ImportedModules", ","⟩

def namespaceList : AliasProperty := ⟨"Namespaces", ", "⟩

def Language.traits : Language → Traits
  | .java | .jar => ⟨false, .exact, importedModules, true, false⟩
  | .javascript | .typescript => ⟨true, .exact, importedModules, true, false⟩
  | .python => ⟨false, .overlap, importedModules, true, true⟩
  | .php => ⟨false, .overlap, namespaceList, false, true⟩
  | .ruby => ⟨true, .overlap, namespaceList, true, true⟩
  | .c | .cpp => ⟨false, .exact, importedModules, true, true⟩
  | .swift => ⟨false, .exact, importedModules, true, false⟩

end BomEvidence
