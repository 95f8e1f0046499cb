import BomEvidence.Sorted.TextSet
import BomEvidence.Symbol.Traits

/-!
The import aliases of packages. A package is in the table when it has an alias that
is not blank.
-/

namespace BomEvidence

structure ImportTable where
  aliases : TextMap (List String)
  deriving DecidableEq, Repr

namespace ImportTable

def empty : ImportTable := ⟨∅⟩

instance : EmptyCollection ImportTable := ⟨empty⟩
instance : Inhabited ImportTable := ⟨empty⟩

/-- Adds the aliases that are not blank. -/
def insert (table : ImportTable) (purl : String) (aliases : List String) : ImportTable :=
  let aliases := aliases.filter fun name => !Text.allBlank name
  if aliases.isEmpty then table
  else ⟨table.aliases.alter purl fun held => held.getD [] ++ aliases⟩

/-- The aliases of a list that is written with separators, without blanks around them. -/
def splitAliases (joined separator : String) : List String :=
  (Text.split joined separator).map Text.trim

def insertJoined (table : ImportTable) (purl joined separator : String) : ImportTable :=
  table.insert purl (splitAliases joined separator)

def isEmpty (table : ImportTable) : Bool := table.aliases.isEmpty

def size (table : ImportTable) : Nat := table.aliases.size

def aliasNames (rule : AliasMatch) (name symbol : String) : Bool :=
  match rule with
  | .exact => name = symbol
  | .overlap => Text.startsWith symbol name || Text.startsWith name symbol

def purlsFor (table : ImportTable) (rule : AliasMatch) (symbol : String) : TextSet :=
  (table.aliases.filter fun _ aliases => aliases.any fun name => aliasNames rule name symbol).keySet

end ImportTable

end BomEvidence
