import BomEvidence.Bom.Document
import BomEvidence.Resolution.ImportTable
import BomEvidence.Sorted.TextSet

/-!
What a document knows before any slice is read: the places where its packages are
used, and the import aliases of its packages.
-/

namespace BomEvidence

structure Seed where
  locations : TextMap TextSet
  imports : ImportTable
  deriving DecidableEq, Repr

namespace Seed

def empty : Seed := ⟨∅, ∅⟩

def places (component : Bom.Component) : List String := component.locations.filter (· != "")

/-- Adds the places and aliases of a component, if it is a package. -/
def addComponent (property : AliasProperty) (seed : Seed) (component : Bom.Component) : Seed :=
  match component.purl with
  | none => seed
  | some purl =>
      { locations :=
          if (places component).isEmpty then seed.locations
          else seed.locations.alter purl fun held => (held.getD ∅).insertAll (places component)
        imports :=
          match component.property? property.name with
          | some aliases => seed.imports.insertJoined purl aliases property.separator
          | none => seed.imports }

def ofComponents (language : Language) (components : List Bom.Component) : Seed :=
  components.foldl (addComponent language.traits.aliasProperty) empty

end Seed

end BomEvidence
