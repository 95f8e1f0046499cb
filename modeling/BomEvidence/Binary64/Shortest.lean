import BomEvidence.Binary64.Basic

/-!
The text of a floating-point number with the fewest digits that read back.
A number stands for the interval of reals that round to it. On the decimal grid
of 1, 2, … 17 digits its two neighbours are tested; the first grid with a hit
wins, and of two hits the nearer.
-/

namespace BomEvidence.Binary64

/-- The reals that round to a magnitude, over a common divisor. The ends belong to
them when the significand is even. -/
structure Interval where
  low : Nat
  value : Nat
  high : Nat
  divisor : Nat
  closed : Bool

/-- Below a power of two the neighbours stand half as far apart as above it. -/
def interval (magnitude : Nat) : Interval :=
  let m := significand magnitude
  let power := exponent magnitude - 2
  let below := if m = fractionSize && lowestExponent < exponent magnitude then 1 else 2
  let up := Nat.pow 2 power.toNat
  { low := (4 * m - below) * up
    value := 4 * m * up
    high := (4 * m + 2) * up
    divisor := Nat.pow 2 (-power).toNat
    closed := m % 2 = 0 }

/-- Whether the point `count · unit` of a grid rounds to the magnitude, all being
taken over the divisor of the interval. -/
def Interval.holds (range : Interval) (point : Nat) : Bool :=
  if range.closed then range.low ≤ point && point ≤ range.high
  else range.low < point && point < range.high

def Interval.inUnits (range : Interval) (power : Int) : Interval :=
  let up := Nat.pow 10 (-power).toNat
  { range with
    low := range.low * up
    value := range.value * up
    high := range.high * up
    divisor := range.divisor * Nat.pow 10 power.toNat }

/-- The neighbour on a grid that rounds to the magnitude, the nearer one of two
and from the middle the even one. -/
def Interval.neighbour? (range : Interval) : Option Nat :=
  let below := range.value / range.divisor
  let above := below + 1
  let toBelow := range.value - below * range.divisor
  let toAbove := above * range.divisor - range.value
  match range.holds (below * range.divisor), range.holds (above * range.divisor) with
  | true, true =>
      if toBelow < toAbove || (toBelow = toAbove && below % 2 = 0) then some below else some above
  | true, false => some below
  | false, true => some above
  | false, false => none

/-- The number of decimal places to the left of the point that a ratio reaches,
less one; for a ratio below one the first place to the right, as a negative number. -/
def floorLog10 (dividend divisor : Nat) : Int :=
  let start : Int := (Nat.toDigits 10 (dividend / divisor)).length - 1
  if divisor ≤ dividend then start else below 330 dividend 0
where
  below : Nat → Nat → Int → Int
    | 0, _, place => place
    | fuel + 1, dividend, place =>
        if divisor ≤ dividend then place else below fuel (dividend * 10) (place - 1)

/-- The first grid of at most `count + start` digits with a hit, as digits and power of ten. -/
def search (range : Interval) (leading : Int) : (count start : Nat) → Nat × Int
  | 0, _ => (0, 0)
  | count + 1, start =>
      let power := leading - start
      match (range.inUnits power).neighbour? with
      | some digits => (digits, power)
      | none => search range leading count (start + 1)

def dropZeros : (fuel digits : Nat) → Int → Nat × Int
  | 0, digits, power => (digits, power)
  | fuel + 1, digits, power =>
      if digits ≠ 0 && digits % 10 = 0 then dropZeros fuel (digits / 10) (power + 1)
      else (digits, power)

/-- The fewest digits that read back, with their power of ten. -/
def shortest (magnitude : Nat) : Nat × Int :=
  let range := interval magnitude
  let (digits, power) := search range (floorLog10 range.value range.divisor) 17 0
  dropZeros 20 digits power

def pointed : List Char → List Char
  | first :: second :: rest => first :: '.' :: second :: rest
  | digits => digits

/-- The text of a number: positional with at least one place after the point where
the leading digit counts from `10 ^ -5` to `10 ^ 15`, and with a signed exponent elsewhere. -/
def text (number : Binary64) : String :=
  let sign := if number.isNegative then ['-'] else []
  let magnitude := number.magnitude
  if magnitude = 0 then String.ofList (sign ++ "0.0".toList)
  else
    let (digits, power) := shortest magnitude
    let shown := Nat.toDigits 10 digits
    let leading : Int := shown.length - 1 + power
    let body :=
      if leading < -5 || 16 ≤ leading then
        pointed shown ++ ['e', if leading < 0 then '-' else '+'] ++ Nat.toDigits 10 leading.natAbs
      else if 0 ≤ power then shown ++ List.replicate power.toNat '0' ++ ".0".toList
      else if 0 ≤ leading then
        shown.take (leading.toNat + 1) ++ '.' :: shown.drop (leading.toNat + 1)
      else "0.".toList ++ List.replicate (leading.natAbs - 1) '0' ++ shown
    String.ofList (sign ++ body)

end BomEvidence.Binary64
