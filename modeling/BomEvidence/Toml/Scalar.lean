import BomEvidence.Text.Search
import BomEvidence.Toml.Value

/-!
Words as values: truth values, numbers, dates and times. Digits may be grouped by
single underscores, and a decimal number has no needless zero in front.
-/

namespace BomEvidence.Toml

def grouped? (isDigit : Char → Bool) (text : List Char) : Option (List Char) :=
  let groups := Text.splitChars ['_'] text
  if groups.all fun group => !group.isEmpty && group.all isDigit then some groups.flatten else none

def digitValue (c : Char) : Nat :=
  if c.isDigit then c.toNat - '0'.toNat
  else if c.isLower then c.toNat - 'a'.toNat + 10
  else c.toNat - 'A'.toNat + 10

def digitsValue (base : Nat) (digits : List Char) : Nat :=
  digits.foldl (fun value digit => value * base + digitValue digit) 0

def isHexDigit (c : Char) : Bool :=
  c.isDigit || ('a' ≤ c && c ≤ 'f') || ('A' ≤ c && c ≤ 'F')

def splitSign : List Char → Bool × List Char
  | '-' :: rest => (true, rest)
  | '+' :: rest => (false, rest)
  | unsigned => (false, unsigned)

def decimal? (text : List Char) : Option (List Char) := do
  let digits ← grouped? Char.isDigit text
  if 1 < digits.length && digits.head? = some '0' then none else some digits

def integer? : List Char → Option Int
  | '0' :: 'x' :: rest => (grouped? isHexDigit rest).map fun digits => digitsValue 16 digits
  | '0' :: 'o' :: rest =>
      (grouped? (fun c => '0' ≤ c && c ≤ '7') rest).map fun digits => digitsValue 8 digits
  | '0' :: 'b' :: rest =>
      (grouped? (fun c => c = '0' || c = '1') rest).map fun digits => digitsValue 2 digits
  | decimal => do
      let (negative, rest) := splitSign decimal
      let value : Int := digitsValue 10 (← decimal? rest)
      some (if negative then -value else value)

def exponent? (text : List Char) : Option Int := do
  let (negative, rest) := splitSign text
  let value : Int := digitsValue 10 (← grouped? Char.isDigit rest)
  some (if negative then -value else value)

/-- A number with a fraction, an exponent or both. -/
def fraction? (text : List Char) : Option Fraction := do
  let (_, unsigned) := splitSign text
  if unsigned = ['i', 'n', 'f'] || unsigned = ['n', 'a', 'n'] then return .special
  let isMark (c : Char) : Bool := c = 'e' || c = 'E'
  let mantissa := unsigned.takeWhile (!isMark ·)
  let hasExponent := unsigned.any isMark
  let exponent ← if hasExponent then exponent? ((unsigned.dropWhile (!isMark ·)).drop 1) else some 0
  match Text.breakAt? ['.'] mantissa with
  | some (whole, part) =>
      let whole ← decimal? whole
      let part ← grouped? Char.isDigit part
      some (.finite (digitsValue 10 (whole ++ part)) (exponent - part.length))
  | none => if hasExponent then some (.finite (digitsValue 10 (← decimal? mantissa)) exponent) else none

def number? (text : List Char) : Option Nat :=
  if text.all Char.isDigit then some (digitsValue 10 text) else none

def isLeapYear (year : Nat) : Bool := year % 4 = 0 && (year % 100 ≠ 0 || year % 400 = 0)

def monthLength (year month : Nat) : Nat :=
  if month = 2 then if isLeapYear year then 29 else 28
  else if month ∈ [4, 6, 9, 11] then 30
  else 31

def skipDate : List Char → Option (List Char)
  | a :: b :: c :: d :: '-' :: e :: f :: '-' :: g :: h :: rest => do
      let year ← number? [a, b, c, d]
      let month ← number? [e, f]
      let day ← number? [g, h]
      if 1 ≤ month && month ≤ 12 && 1 ≤ day && day ≤ monthLength year month then some rest else none
  | _ => none

def skipFraction : List Char → Option (List Char)
  | '.' :: rest =>
      if (rest.takeWhile Char.isDigit).isEmpty then none else some (rest.dropWhile Char.isDigit)
  | rest => some rest

def skipSeconds : List Char → Option (List Char)
  | ':' :: a :: b :: rest => do
      if (← number? [a, b]) ≤ 60 then skipFraction rest else none
  | rest => some rest

def skipTime : List Char → Option (List Char)
  | a :: b :: ':' :: c :: d :: rest => do
      if (← number? [a, b]) < 24 && (← number? [c, d]) < 60 then skipSeconds rest else none
  | _ => none

/-- Whether a text is the distance of a local time from universal time. -/
def isOffset : List Char → Bool
  | ['Z'] | ['z'] => true
  | [sign, a, b, ':', c, d] =>
      (sign = '+' || sign = '-') && (number? [a, b]).any (· < 24) && (number? [c, d]).any (· < 60)
  | _ => false

/-- Whether a text is a date, a time of day, or both. -/
def isMoment (text : List Char) : Bool :=
  match skipDate text with
  | some [] => true
  | some (separator :: rest) =>
      (separator = 'T' || separator = 't' || separator = ' ') &&
        (skipTime rest).any fun rest => rest.isEmpty || isOffset rest
  | none => skipTime text = some []

def scalar? (source : String) : Option Toml :=
  let text := source.toList
  if source = "true" then some (.bool true)
  else if source = "false" then some (.bool false)
  else if isMoment text then some .moment
  else (integer? text).map Toml.integer <|> (fraction? text).map Toml.fraction

end BomEvidence.Toml
