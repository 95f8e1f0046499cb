import BomEvidence.Toml.Value

/-!
Reading typed data from TOML values. A record is a table, whose unknown members are
passed over, or an array of its fields in order; what follows the last field in such
an array is not looked at. A moment counts as a table whose one member is not known.
-/

namespace BomEvidence.Toml

abbrev Reader (Item : Type) := Toml → Option Item

namespace Reader

def text? : Reader String
  | .text value => some value
  | _ => none

def bool? : Reader Bool
  | .bool value => some value
  | _ => none

def word? : Reader UInt64
  | .integer value => if 0 ≤ value && value < UInt64.size then some (UInt64.ofNat value.toNat) else none
  | _ => none

end Reader

abbrev Fields := List (String × Toml)

/-- The fields of a record. Members that it does not know only have to be representable. -/
def record? (names : List String) : Reader Fields
  | .table members =>
      if membersRepresentable (members.filter fun (key, _) => key ∉ names) then
        some (members.filter fun (key, _) => key ∈ names)
      else none
  | .array items => some (names.zip items)
  | .moment => some []
  | _ => none

def Fields.withDefault? {Item : Type} (fields : Fields) (name : String) (read : Reader Item)
    (default : Item) : Option Item :=
  match fields.lookup name with
  | some value => read value
  | none => some default

end BomEvidence.Toml
