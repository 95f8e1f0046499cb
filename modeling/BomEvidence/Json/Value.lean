import BomEvidence.Binary64.Shortest
import BomEvidence.Sorted.TextMap

/-!
JSON values and their two written forms. A number is an integer of at most 64
bits or a binary floating-point number. The members of an object are written in
the order in which they are listed; an object made from a map lists its keys in
ascending order.
-/

namespace BomEvidence

inductive Json.Number where
  | integer (value : Int)
  | float (value : Binary64)
  deriving DecidableEq, Repr, Inhabited

inductive Json where
  | null
  | bool (value : Bool)
  | number (value : Json.Number)
  | text (value : String)
  | array (items : List Json)
  | object (members : List (String × Json))
  deriving Repr, Inhabited

namespace Json

mutual

/-- Whether two values are the same, members of objects being compared in order. -/
def same : Json → Json → Bool
  | .null, .null => true
  | .bool first, .bool second => first = second
  | .number first, .number second => first = second
  | .text first, .text second => first = second
  | .array first, .array second => sameItems first second
  | .object first, .object second => sameMembers first second
  | _, _ => false

def sameItems : List Json → List Json → Bool
  | [], [] => true
  | first :: firsts, second :: seconds => same first second && sameItems firsts seconds
  | _, _ => false

def sameMembers : List (String × Json) → List (String × Json) → Bool
  | [], [] => true
  | (key, first) :: firsts, (other, second) :: seconds =>
      key = other && same first second && sameMembers firsts seconds
  | _, _ => false

end

mutual

theorem same_iff : (first second : Json) → (same first second = true ↔ first = second)
  | .null, second => by cases second <;> simp [same]
  | .bool _, second => by cases second <;> simp [same]
  | .number _, second => by cases second <;> simp [same]
  | .text _, second => by cases second <;> simp [same]
  | .array items, second => by
      cases second <;> simp [same, same_items_iff items]
  | .object members, second => by
      cases second <;> simp [same, same_members_iff members]

theorem same_items_iff :
    (firsts seconds : List Json) → (sameItems firsts seconds = true ↔ firsts = seconds)
  | [], seconds => by cases seconds <;> simp [sameItems]
  | first :: firsts, seconds => by
      cases seconds <;> simp [sameItems, same_iff first, same_items_iff firsts]

theorem same_members_iff : (firsts seconds : List (String × Json)) →
    (sameMembers firsts seconds = true ↔ firsts = seconds)
  | [], seconds => by cases seconds <;> simp [sameMembers]
  | (key, first) :: firsts, seconds => by
      rcases seconds with _ | ⟨⟨other, second⟩, seconds⟩
      · simp [sameMembers]
      · simp [sameMembers, same_iff first, same_members_iff firsts, and_assoc]

end

instance : DecidableEq Json := fun first second =>
  decidable_of_iff (same first second = true) (same_iff first second)

def ofMap (members : TextMap Json) : Json := .object members.entries

def ofNat (value : Nat) : Json := .number (.integer value)

def ofWord (value : UInt64) : Json := ofNat value.toNat

def ofList {Item : Type} (write : Item → Json) (items : List Item) : Json := .array (items.map write)

/-- A value that may be absent, written as `null` where it is. -/
def ofOption {Item : Type} (write : Item → Json) : Option Item → Json
  | some item => write item
  | none => .null

def member? (value : Json) (key : String) : Option Json :=
  match value with
  | .object members => members.lookup key
  | _ => none

def item? (value : Json) (position : Nat) : Option Json :=
  match value with
  | .array items => items[position]?
  | _ => none

def Number.text : Number → String
  | .integer value => value.repr
  | .float value => value.text

def hexDigit (value : Nat) : Char := Nat.digitChar (value % 16)

/-- A character inside quotes: quotes, backslashes and control characters are escaped. -/
def escape (c : Char) : List Char :=
  if c = '"' then ['\\', '"']
  else if c = '\\' then ['\\', '\\']
  else if c.toNat = 0x08 then ['\\', 'b']
  else if c = '\t' then ['\\', 't']
  else if c = '\n' then ['\\', 'n']
  else if c.toNat = 0x0C then ['\\', 'f']
  else if c = '\r' then ['\\', 'r']
  else if c.toNat < 0x20 then
    ['\\', 'u', '0', '0', hexDigit (c.toNat / 16), hexDigit c.toNat]
  else [c]

def quote (text : String) : String :=
  String.ofList ('"' :: (text.toList.flatMap escape ++ ['"']))

mutual

def compact : Json → String
  | .null => "null"
  | .bool value => if value then "true" else "false"
  | .number value => value.text
  | .text value => quote value
  | .array items => "[" ++ compactItems items ++ "]"
  | .object members => "\x7b" ++ compactMembers members ++ "\x7d"

def compactItems : List Json → String
  | [] => ""
  | [item] => compact item
  | item :: next :: rest => compact item ++ "," ++ compactItems (next :: rest)

def compactMembers : List (String × Json) → String
  | [] => ""
  | [(key, value)] => quote key ++ ":" ++ compact value
  | (key, value) :: next :: rest =>
      quote key ++ ":" ++ compact value ++ "," ++ compactMembers (next :: rest)

end

/-- A line break followed by the indentation of a depth, two blanks for each level. -/
def newLine (depth : Nat) : String := String.ofList ('\n' :: List.replicate (2 * depth) ' ')

mutual

def prettyAt (depth : Nat) : Json → String
  | .null => "null"
  | .bool value => if value then "true" else "false"
  | .number value => value.text
  | .text value => quote value
  | .array items =>
      if items.isEmpty then "[]"
      else "[" ++ prettyItems depth items ++ newLine depth ++ "]"
  | .object members =>
      if members.isEmpty then "\x7b\x7d"
      else "\x7b" ++ prettyMembers depth members ++ newLine depth ++ "\x7d"

def prettyItems (depth : Nat) : List Json → String
  | [] => ""
  | [item] => newLine (depth + 1) ++ prettyAt (depth + 1) item
  | item :: next :: rest =>
      newLine (depth + 1) ++ prettyAt (depth + 1) item ++ "," ++ prettyItems depth (next :: rest)

def prettyMembers (depth : Nat) : List (String × Json) → String
  | [] => ""
  | [(key, value)] => newLine (depth + 1) ++ quote key ++ ": " ++ prettyAt (depth + 1) value
  | (key, value) :: next :: rest =>
      newLine (depth + 1) ++ quote key ++ ": " ++ prettyAt (depth + 1) value ++ "," ++
        prettyMembers depth (next :: rest)

end

def pretty (value : Json) : String := prettyAt 0 value

end Json

end BomEvidence
