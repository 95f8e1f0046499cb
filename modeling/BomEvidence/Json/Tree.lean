import BomEvidence.Json.Value

/-!
What a JSON text says, before it is known which parts of it are needed. The tree
keeps members in the order of the text, repeated keys included. Some parts have
correct grammar and still no value: numbers beyond every finite magnitude, texts
with half of a surrogate pair, and containers nested too deeply. They are one
leaf of the tree, which harms nobody who passes over it.
-/

namespace BomEvidence.Json

inductive Tree where
  | null
  | bool (value : Bool)
  | number (value : Number)
  | text (value : String)
  | array (items : List Tree)
  | object (members : List (String × Tree))
  | unreadable
  deriving Repr, Inhabited

namespace Tree

/-- The deepest level on which an array or object can be read. -/
def depthLimit : Nat := 127

def isBlank (c : Char) : Bool := c = ' ' || c = '\t' || c = '\n' || c = '\r'

def skipBlanks (text : List Char) : List Char := text.dropWhile isBlank

def hexValue? (c : Char) : Option Nat :=
  if '0' ≤ c && c ≤ '9' then some (c.toNat - '0'.toNat)
  else if 'a' ≤ c && c ≤ 'f' then some (c.toNat - 'a'.toNat + 10)
  else if 'A' ≤ c && c ≤ 'F' then some (c.toNat - 'A'.toNat + 10)
  else none

def hexUnit? (a b c d : Char) : Option Nat := do
  some (16 * (16 * (16 * (← hexValue? a) + (← hexValue? b)) + (← hexValue? c)) + (← hexValue? d))

def isHighSurrogate (unit : Nat) : Bool := 0xD800 ≤ unit && unit < 0xDC00

def isLowSurrogate (unit : Nat) : Bool := 0xDC00 ≤ unit && unit < 0xE000

def pairedChar (high low : Nat) : Char :=
  Char.ofNat (0x10000 + (high - 0xD800) * 0x400 + (low - 0xDC00))

def escaped? (letter : Char) : Option Char :=
  match letter with
  | '"' => some '"'
  | '\\' => some '\\'
  | '/' => some '/'
  | 'b' => some (Char.ofNat 0x08)
  | 'f' => some (Char.ofNat 0x0C)
  | 'n' => some '\n'
  | 'r' => some '\r'
  | 't' => some '\t'
  | _ => none

/-- The characters read so far, in reverse, with the first half of a surrogate pair
that waits for the second one. They are absent once a half stood alone. -/
structure Reading where
  done : Option (List Char)
  waiting : Option Nat

/-- Adds a character, before which no half of a pair may be waiting. -/
def Reading.push (reading : Reading) (c : Char) : Reading :=
  ⟨if reading.waiting.isSome then none else reading.done.map (c :: ·), none⟩

/-- Adds an escaped unit, which is a character or half of one. -/
def Reading.pushUnit (reading : Reading) (unit : Nat) : Reading :=
  match reading.waiting with
  | some high =>
      if isLowSurrogate unit then ⟨reading.done.map (pairedChar high unit :: ·), none⟩
      else ⟨none, none⟩
  | none =>
      if isHighSurrogate unit then ⟨reading.done, some unit⟩
      else if isLowSurrogate unit then ⟨none, none⟩
      else reading.push (Char.ofNat unit)

def Reading.text? (reading : Reading) : Option String :=
  if reading.waiting.isSome then none
  else reading.done.map fun characters => String.ofList characters.reverse

def quoted (reading : Reading) : List Char → Option (Option String × List Char)
  | [] => none
  | '"' :: rest => some (reading.text?, rest)
  | '\\' :: 'u' :: a :: b :: c :: d :: rest =>
      match hexUnit? a b c d with
      | some unit => quoted (reading.pushUnit unit) rest
      | none => none
  | '\\' :: letter :: rest =>
      match escaped? letter with
      | some c => quoted (reading.push c) rest
      | none => none
  | c :: rest => if c.toNat < 0x20 then none else quoted (reading.push c) rest

def quotedText? (input : List Char) : Option (Option String × List Char) :=
  quoted ⟨some [], none⟩ input

structure Numeral where
  negative : Bool
  whole : List Nat
  fraction : Option (List Nat)
  exponent : Option (Bool × List Nat)

def digits (input : List Char) : List Nat × List Char :=
  ((input.takeWhile Char.isDigit).map fun c => c.toNat - '0'.toNat, input.dropWhile Char.isDigit)

/-- The digits after a point, which are at least one. -/
def fraction? : List Char → Option (Option (List Nat) × List Char)
  | '.' :: input =>
      let (places, rest) := digits input
      if places.isEmpty then none else some (some places, rest)
  | input => some (none, input)

def exponent? : List Char → Option (Option (Bool × List Nat) × List Char)
  | [] => some (none, [])
  | c :: input =>
      if c = 'e' || c = 'E' then
        let (negative, input) := match input with
          | '-' :: input => (true, input)
          | '+' :: input => (false, input)
          | input => (false, input)
        let (places, rest) := digits input
        if places.isEmpty then none else some (some (negative, places), rest)
      else some (none, c :: input)

/-- A number at the start of a text. A zero stands alone before the point. -/
def numeral? (input : List Char) : Option (Numeral × List Char) := do
  let (negative, input) := match input with
    | '-' :: input => (true, input)
    | input => (false, input)
  let (whole, rest) := digits input
  if whole.isEmpty || (whole.head? = some 0 && 1 < whole.length) then none
  else
    let (fraction, rest) ← fraction? rest
    let (exponent, rest) ← exponent? rest
    some (⟨negative, whole, fraction, exponent⟩, rest)

/-- The bound of the integers that hold the digits of a number. -/
def wordLimit : Nat := UInt64.size

/-- Takes digits into a number as long as it stays below the bound, and tells how
many are left over. -/
def gather (amount : Nat) : List Nat → Nat × Nat
  | [] => (amount, 0)
  | digit :: rest =>
      if amount * 10 + digit < wordLimit then gather (amount * 10 + digit) rest
      else (amount, rest.length + 1)

def natOfDigits (places : List Nat) : Nat := places.foldl (fun amount digit => amount * 10 + digit) 0

/-- The value of a number. Integers of 64 bits keep their value, apart from `-0`;
all others are floating-point numbers, from as many leading digits as 64 bits hold. -/
def Numeral.value? (numeral : Numeral) : Option Number :=
  let (amount, dropped) := gather 0 numeral.whole
  match numeral.fraction, numeral.exponent with
  | none, none =>
      if dropped ≠ 0 then (Binary64.ofDecimal? numeral.negative amount dropped).map .float
      else if !numeral.negative then some (.integer amount)
      else if amount = 0 || 0x8000000000000000 < amount then
        (Binary64.ofDecimal? true amount 0).map .float
      else some (.integer (-amount))
  | fraction, exponent =>
      let places := fraction.getD []
      let (digits, left) := gather amount places
      let power : Int := match exponent with
        | none => 0
        | some (true, shown) => -(natOfDigits shown : Int)
        | some (false, shown) => natOfDigits shown
      (Binary64.ofDecimal? numeral.negative digits
        (power + dropped - (places.length - left : Nat))).map .float

/-- A container on a level, or the unreadable leaf below the deepest one. -/
def onLevel (depth : Nat) (container : Tree) : Tree :=
  if depth ≤ depthLimit then container else .unreadable

mutual

/-- Reads a value inside of `depth` containers. -/
def readValue : (fuel depth : Nat) → List Char → Option (Tree × List Char)
  | 0, _, _ => none
  | fuel + 1, depth, input =>
      match skipBlanks input with
      | '"' :: rest => do
          let (content, rest) ← quotedText? rest
          some (match content with | some value => .text value | none => .unreadable, rest)
      | '[' :: rest =>
          match skipBlanks rest with
          | ']' :: rest => some (onLevel (depth + 1) (.array []), rest)
          | rest => readItems fuel (depth + 1) [] rest
      | '\x7b' :: rest =>
          match skipBlanks rest with
          | '\x7d' :: rest => some (onLevel (depth + 1) (.object []), rest)
          | rest => readMembers fuel (depth + 1) (some []) rest
      | 't' :: 'r' :: 'u' :: 'e' :: rest => some (.bool true, rest)
      | 'f' :: 'a' :: 'l' :: 's' :: 'e' :: rest => some (.bool false, rest)
      | 'n' :: 'u' :: 'l' :: 'l' :: rest => some (.null, rest)
      | input => do
          let (numeral, rest) ← numeral? input
          some (match numeral.value? with | some value => .number value | none => .unreadable, rest)

/-- Reads the items up to the end of an array. The items read so far are in reverse. -/
def readItems : (fuel depth : Nat) → List Tree → List Char → Option (Tree × List Char)
  | 0, _, _, _ => none
  | fuel + 1, depth, done, input =>
      match readValue fuel depth input with
      | none => none
      | some (item, rest) =>
          match skipBlanks rest with
          | ',' :: rest => readItems fuel depth (item :: done) rest
          | ']' :: rest => some (onLevel depth (.array (item :: done).reverse), rest)
          | _ => none

/-- Reads the members up to the end of an object. The members read so far are in
reverse, and absent once a key was unreadable. -/
def readMembers :
    (fuel depth : Nat) → Option (List (String × Tree)) → List Char → Option (Tree × List Char)
  | 0, _, _, _ => none
  | fuel + 1, depth, done, input =>
      match skipBlanks input with
      | '"' :: rest =>
          match quotedText? rest with
          | none => none
          | some (key, rest) =>
              match skipBlanks rest with
              | ':' :: rest =>
                  match readValue fuel depth rest with
                  | none => none
                  | some (value, rest) =>
                      let done := do some ((← key, value) :: (← done))
                      match skipBlanks rest with
                      | ',' :: rest => readMembers fuel depth done rest
                      | '\x7d' :: rest =>
                          let container := match done with
                            | some members => .object members.reverse
                            | none => .unreadable
                          some (onLevel depth container, rest)
                      | _ => none
              | _ => none
      | _ => none

end

/-- The tree of a text that holds one value and blanks around it. -/
def ofText? (text : String) : Option Tree := do
  let (tree, rest) ← readValue (2 * text.length + 2) 0 text.toList
  if (skipBlanks rest).isEmpty then some tree else none

mutual

/-- The value of a tree without unreadable parts. Of a repeated key the last value stays. -/
def value? : Tree → Option Json
  | .null => some .null
  | .bool value => some (.bool value)
  | .number value => some (.number value)
  | .text value => some (.text value)
  | .array items => (values? items).map .array
  | .object members => (memberValues? members).map fun read => .ofMap (.ofList read)
  | .unreadable => none

def values? : List Tree → Option (List Json)
  | [] => some []
  | item :: rest => do some ((← value? item) :: (← values? rest))

def memberValues? : List (String × Tree) → Option (List (String × Json))
  | [] => some []
  | (key, item) :: rest => do some ((key, ← value? item) :: (← memberValues? rest))

end

end Tree

mutual

def tree : Json → Tree
  | .null => .null
  | .bool value => .bool value
  | .number value => .number value
  | .text value => .text value
  | .array items => .array (itemTrees items)
  | .object members => .object (memberTrees members)

def itemTrees : List Json → List Tree
  | [] => []
  | item :: rest => tree item :: itemTrees rest

def memberTrees : List (String × Json) → List (String × Tree)
  | [] => []
  | (key, item) :: rest => (key, tree item) :: memberTrees rest

end

def parse? (text : String) : Option Json := do (← Tree.ofText? text).value?

end BomEvidence.Json
