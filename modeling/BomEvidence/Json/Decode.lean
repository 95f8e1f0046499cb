import BomEvidence.Json.Tree

/-!
Reading typed data from a JSON tree. A reader answers `none` where the tree does
not have the expected form; what a reader passes over may be unreadable.

A record is an object, whose unknown members are passed over and whose known ones
are not repeated, or an array of its fields in order, from which fields at the end
may be missing. A record that keeps its unknown members is an object.
-/

namespace BomEvidence.Json.Tree

abbrev Reader (Item : Type) := Tree → Option Item

variable {Item : Type}

namespace Reader

def text? : Reader String
  | .text value => some value
  | _ => none

def bool? : Reader Bool
  | .bool value => some value
  | _ => none

/-- An integer without sign, of at most 64 bits. -/
def word? : Reader UInt64
  | .number (.integer value) =>
      if 0 ≤ value && value < wordLimit then some (UInt64.ofNat value.toNat) else none
  | _ => none

def option? (read : Reader Item) : Reader (Option Item)
  | .null => some none
  | tree => (read tree).map some

def list? (read : Reader Item) : Reader (List Item)
  | .array items => items.mapM read
  | _ => none

/-- An object of data under free keys. Of a repeated key the last entry stays. -/
def map? (read : Reader Item) : Reader (TextMap Item)
  | .object members => do
      let entries ← members.mapM fun (key, tree) => (read tree).map fun item => (key, item)
      some (.ofList entries)
  | _ => none

end Reader

abbrev Fields := List (String × Tree)

/-- The fields of a record that passes over unknown members. -/
def record? (names : List String) : Reader Fields
  | .object members =>
      let known := members.filter fun (key, _) => key ∈ names
      if (known.map Prod.fst).Nodup then some known else none
  | .array items => if items.length ≤ names.length then some (names.zip items) else none
  | _ => none

/-- The fields and the unknown members of a record that keeps these. -/
def openRecord? (names : List String) : Reader (Fields × TextMap Json)
  | .object members => do
      let known := members.filter fun (key, _) => key ∈ names
      let extra ← memberValues? (members.filter fun (key, _) => key ∉ names)
      if (known.map Prod.fst).Nodup then some (known, .ofList extra) else none
  | _ => none

def Fields.required? (fields : Fields) (name : String) (read : Reader Item) : Option Item := do
  read (← fields.lookup name)

def Fields.withDefault? (fields : Fields) (name : String) (read : Reader Item) (default : Item) :
    Option Item :=
  match fields.lookup name with
  | some tree => read tree
  | none => some default

/-- A field that may be absent or `null`. -/
def Fields.optional? (fields : Fields) (name : String) (read : Reader Item) :
    Option (Option Item) :=
  fields.withDefault? name (.option? read) none

/-- A list that is empty where the field is absent. -/
def Fields.listOf? (fields : Fields) (name : String) (read : Reader Item) : Option (List Item) :=
  fields.withDefault? name (.list? read) []

end BomEvidence.Json.Tree
