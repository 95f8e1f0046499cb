import BomEvidence.Failure
import BomEvidence.Json.Decode
import BomEvidence.Namespace.Like
import BomEvidence.Sorted.TextSet
import BomEvidence.Text.Search

/-!
Namespace indexes, which tell the packages whose symbols contain a text. A catalog
maps package URLs to their symbols; it is held in memory, where the text is looked
for as it is, or in a database, which looks for it by a pattern.
-/

namespace BomEvidence

structure NamespaceIndex where
  name : String
  find : String → Except Failure (List String)

abbrev Catalog := TextMap String

namespace Catalog

/-- The entries of a catalog in a JSON object. Symbols that are not a text are kept
as their written form. -/
def entries? (source : String) : Except Failure (List (String × String)) :=
  match Json.parse? source with
  | none => .error (.index (.importFailed "invalid namespace json: not a JSON document"))
  | some (.object members) =>
      .ok (members.map fun (purl, data) =>
        (purl, match data with | .text symbols => symbols | other => other.compact))
  | some _ => .error (.index (.importFailed "namespace json must be an object"))

def ofJson (source : String) : Except Failure Catalog := do
  return TextMap.ofList (← entries? source)

/-- Adds entries one after the other. The last entry of a package stays. -/
def insertAll (catalog : Catalog) (added : List (String × String)) : Catalog :=
  added.foldl (fun held entry => held.insert entry.1 entry.2) catalog

def importAll (catalog : Catalog) (batch : List (String × String)) : Nat × Catalog :=
  batch.foldl (fun (count, held) entry => (count + 1, held.insert entry.1 entry.2)) (0, catalog)

def find (catalog : Catalog) (needle : String) : List String :=
  (catalog.filter fun _ symbols => Text.contains symbols needle).keys

/-- The packages whose symbols match the pattern of a needle. A pattern that is too
long fails as soon as there is something to match. -/
def findLike (catalog : Catalog) (needle : String) : Except Failure (List String) :=
  let pattern := Like.containing needle
  if !catalog.isEmpty && Like.sizeLimit < pattern.utf8ByteSize then
    .error (.index (.queryFailed "LIKE or GLOB pattern too complex"))
  else .ok (catalog.filter fun _ symbols => Like.matches? pattern symbols).keys

def memoryIndex (catalog : Catalog) : NamespaceIndex := ⟨"memory", fun needle => .ok (catalog.find needle)⟩

def databaseIndex (catalog : Catalog) : NamespaceIndex := ⟨"sqlite", catalog.findLike⟩

end Catalog

end BomEvidence
