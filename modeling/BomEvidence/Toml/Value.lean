/-!
Values of TOML documents. Times are not told apart, and of a fractional number only
its decimal form is kept; whether a value can be represented is a question of its own.
-/

namespace BomEvidence

inductive Toml.Fraction where
  /-- A number of digits times a power of ten. -/
  | finite (digits : Nat) (exponent : Int)
  | special
  deriving DecidableEq, Repr, Inhabited

inductive Toml where
  | text (value : String)
  | integer (value : Int)
  | fraction (value : Toml.Fraction)
  | bool (value : Bool)
  | moment
  | array (items : List Toml)
  | table (members : List (String × Toml))
  deriving Repr, Inhabited

namespace Toml

/-- The least number that is rounded to infinity. -/
def fractionLimit : Nat := Nat.pow 2 1024 - Nat.pow 2 970

/-- Whether a number stays below infinity. Only numbers of about the size of the limit
are compared with it. -/
def Fraction.isRepresentable : Fraction → Bool
  | .special => true
  | .finite digits exponent =>
      let magnitude := (Nat.toDigits 10 digits).length + exponent
      if digits = 0 || magnitude < 300 then true
      else if 310 < magnitude then false
      else if exponent < 0 then digits < fractionLimit * Nat.pow 10 exponent.natAbs
      else digits * Nat.pow 10 exponent.toNat < fractionLimit

def fitsWord (value : Int) : Bool :=
  -0x80000000000000000000000000000000 ≤ value && value < 0x100000000000000000000000000000000

mutual

def isRepresentable : Toml → Bool
  | .text _ | .bool _ | .moment => true
  | .integer value => fitsWord value
  | .fraction value => value.isRepresentable
  | .array items => areRepresentable items
  | .table members => membersRepresentable members

def areRepresentable : List Toml → Bool
  | [] => true
  | item :: rest => isRepresentable item && areRepresentable rest

def membersRepresentable : List (String × Toml) → Bool
  | [] => true
  | (_, item) :: rest => isRepresentable item && membersRepresentable rest

end

end Toml

end BomEvidence
