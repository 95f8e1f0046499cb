/-!
Binary floating point of 64 bits as exact arithmetic. A magnitude is the bit
pattern of a number without its sign; its value is `significand · 2 ^ exponent`.
Every operation computes the exact ratio and rounds it once, to the nearest
magnitude and from the middle to the even one.
-/

namespace BomEvidence

structure Binary64 where
  bits : UInt64
  deriving DecidableEq, Repr, Inhabited

namespace Binary64

/-- The number of magnitudes with one exponent: 52 bits hold the fraction. -/
def fractionSize : Nat := 0x10000000000000

def signSize : Nat := 0x8000000000000000

def lowestExponent : Int := -1074

/-- The bit pattern of infinity, which bounds the finite magnitudes. -/
def infinite : Nat := 2047 * fractionSize

def significand (magnitude : Nat) : Nat :=
  if magnitude < fractionSize then magnitude else magnitude % fractionSize + fractionSize

def exponent (magnitude : Nat) : Int :=
  if magnitude < fractionSize then lowestExponent
  else (magnitude / fractionSize : Nat) - 1 + lowestExponent

/-- The quotient rounded to the nearest integer, from the middle to the even one. -/
def roundQuotient (dividend divisor : Nat) : Nat :=
  let quotient := dividend / divisor
  let twice := 2 * (dividend % divisor)
  if divisor < twice || (twice = divisor && quotient % 2 = 1) then quotient + 1 else quotient

/-- The ratio `dividend · 2 ^ power / divisor` as dividend and divisor. -/
def scale (dividend divisor : Nat) (power : Int) : Nat × Nat :=
  (dividend * Nat.pow 2 power.toNat, divisor * Nat.pow 2 (-power).toNat)

/-- The greatest `power` with `2 ^ power` at most the ratio. -/
def floorLog2 (dividend divisor : Nat) : Int :=
  let estimate : Int := dividend.log2 - divisor.log2
  let (left, right) := scale dividend divisor (-estimate)
  if right ≤ left then estimate else estimate - 1

/-- The magnitude nearest to a ratio, unless it is as great as infinity. -/
def ofRatio? (dividend divisor : Nat) : Option Nat :=
  if dividend = 0 then some 0
  else
    let power := max lowestExponent (floorLog2 dividend divisor - 52)
    let (left, right) := scale dividend divisor (-power)
    let magnitude := (power - lowestExponent).toNat * fractionSize + roundQuotient left right
    if magnitude < infinite then some magnitude else none

def product? (first second : Nat) : Option Nat :=
  let (left, right) :=
    scale (significand first * significand second) 1 (exponent first + exponent second)
  ofRatio? left right

def quotient? (first second : Nat) : Option Nat :=
  let (left, right) :=
    scale (significand first) (significand second) (exponent first - exponent second)
  ofRatio? left right

def powerOfTen (power : Nat) : Nat := (ofRatio? (Nat.pow 10 power) 1).getD 0

def greatestPower : Nat := 308

/-- The magnitude divided by a power of ten. Powers beyond the greatest one are
taken in steps of it; the count bounds the steps, and three of them take every
magnitude of a 64-bit integer to zero. -/
def divideByPower : (steps magnitude power : Nat) → Nat
  | 0, _, _ => 0
  | steps + 1, magnitude, power =>
      if power ≤ greatestPower then (quotient? magnitude (powerOfTen power)).getD 0
      else
        divideByPower steps ((quotient? magnitude (powerOfTen greatestPower)).getD 0)
          (power - greatestPower)

/-- The magnitude of `digits · 10 ^ power` in floating-point arithmetic: the digits
are rounded first and then multiplied or divided by a rounded power of ten. -/
def decimalMagnitude? (digits : Nat) (power : Int) : Option Nat := do
  let magnitude ← ofRatio? digits 1
  if magnitude = 0 then some 0
  else if power < 0 then some (divideByPower 4 magnitude power.natAbs)
  else if power ≤ greatestPower then product? magnitude (powerOfTen power.toNat)
  else none

def ofMagnitude (negative : Bool) (magnitude : Nat) : Binary64 :=
  ⟨UInt64.ofNat (if negative then magnitude + signSize else magnitude)⟩

def ofDecimal? (negative : Bool) (digits : Nat) (power : Int) : Option Binary64 :=
  (decimalMagnitude? digits power).map (ofMagnitude negative)

def isNegative (number : Binary64) : Bool := signSize ≤ number.bits.toNat

def magnitude (number : Binary64) : Nat := number.bits.toNat % signSize

end Binary64

end BomEvidence
