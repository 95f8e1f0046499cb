import BomEvidence.Binary64.Shortest
import BomEvidence.Proofs.Binary64.Rounding

/-!
Decimals that are read in floating-point arithmetic. The digits and the power of ten are rounded,
and so is their product, which stays finite up to three units of the last place below the
greatest magnitude. The shortest digits of a magnitude stay within its interval, so that they are
read as a finite number as well; the last three magnitudes are seen to be by computation.
-/

namespace BomEvidence.Binary64

/-- Three units of the last place below the bound of the magnitudes. -/
def safe : Nat := (2 ^ 53 - 3) * 2 ^ 971

theorem safe_twice_rounded :
    (safe : ℚ) * (1 + 1 / 2 ^ 53) * (1 + 1 / 2 ^ 53) ≤ greatest := by
  unfold safe greatest
  rw [Nat.cast_mul, Nat.cast_mul]
  have unit : (0 : ℚ) ≤ (2 ^ 971 : Nat) := Nat.cast_nonneg _
  generalize ((2 ^ 971 : Nat) : ℚ) = last at unit ⊢
  norm_num
  linarith

theorem word_le_safe : 2 ^ 64 ≤ safe := by
  have enlarged (power : Nat) (enough : 12 ≤ power) : 2 ^ 64 ≤ (2 ^ 53 - 3) * 2 ^ power := by
    calc 2 ^ 64 ≤ (2 ^ 53 - 3) * 2 ^ 12 := by norm_num
      _ ≤ (2 ^ 53 - 3) * 2 ^ power :=
        Nat.mul_le_mul_left _ (Nat.pow_le_pow_right Nat.two_pos enough)
  exact enlarged 971 (by decide)

theorem enlarged_le {small large : ℚ} (le : small ≤ large) :
    small * (1 + 1 / 2 ^ 53) * (1 + 1 / 2 ^ 53) ≤ large * (1 + 1 / 2 ^ 53) * (1 + 1 / 2 ^ 53) := by
  gcongr

theorem product_of_near {first second near other : ℚ} (firstNear : near ≤ first * (1 + 1 / 2 ^ 53))
    (secondNear : other ≤ second * (1 + 1 / 2 ^ 53)) (otherNonneg : 0 ≤ other)
    (firstNonneg : 0 ≤ first) :
    near * other ≤ first * second * (1 + 1 / 2 ^ 53) * (1 + 1 / 2 ^ 53) := by
  calc near * other ≤ first * (1 + 1 / 2 ^ 53) * (second * (1 + 1 / 2 ^ 53)) := by gcongr
    _ = first * second * (1 + 1 / 2 ^ 53) * (1 + 1 / 2 ^ 53) := by ring

theorem product_of_le_greatest {first second : Nat} (below : value first * value second ≤ greatest) :
    ∃ magnitude, product? first second = some magnitude := by
  obtain ⟨positive, scaled⟩ := scale_spec (significand first * significand second) Nat.one_pos
    (exponent first + exponent second)
  apply of_ratio_of_le_greatest positive
  have ratio : ((scale (significand first * significand second) 1
      (exponent first + exponent second)).1 : ℚ) / (scale (significand first * significand second) 1
      (exponent first + exponent second)).2 ≤ greatest := by
    rw [scaled, zpow_add₀ two_ne_zero]
    refine le_of_eq_of_le ?_ below
    unfold value
    push_cast
    ring
  rw [div_le_iff₀ (by exact_mod_cast positive)] at ratio
  exact_mod_cast ratio

theorem power_le_greatest {power : Nat} (bounded : power ≤ greatestPower) :
    10 ^ power ≤ greatest := by
  have quarters : 971 = 243 + 243 + 243 + 242 := rfl
  have split : 10 ^ power ≤ 10 ^ (154 + 154) := pow_le_pow_right₀ (by decide) bounded
  calc 10 ^ power ≤ 10 ^ 154 * 10 ^ 154 := by rwa [pow_add 10 154 154] at split
    _ ≤ (2 ^ 53 - 1) * (2 ^ 243 * 2 ^ 243 * 2 ^ 243 * 2 ^ 242) := by norm_num
    _ = greatest := by rw [greatest, quarters, pow_add, pow_add, pow_add]

/-- A power of ten above the greatest one is above every magnitude. -/
theorem power_le_of_le_safe {power : Nat} (below : 10 ^ power ≤ safe) : power ≤ greatestPower := by
  have quarters : 971 = 243 + 243 + 243 + 242 := rfl
  by_contra beyond
  have next : 103 + 103 + 103 ≤ power := not_le.1 beyond
  have least : 10 ^ (103 + 103 + 103) ≤ 10 ^ power := pow_le_pow_right₀ (by decide) next
  have least' : 10 ^ 103 * 10 ^ 103 * 10 ^ 103 ≤ 10 ^ power := by
    rwa [pow_add 10 (103 + 103) 103, pow_add 10 103 103] at least
  have greater : (2 ^ 53 - 3) * (2 ^ 243 * 2 ^ 243 * 2 ^ 243 * 2 ^ 242) <
      10 ^ 103 * 10 ^ 103 * 10 ^ 103 := by norm_num
  rw [safe, quarters, pow_add, pow_add, pow_add] at below
  omega

theorem value_of_power_of_ten {power : Nat} (bounded : power ≤ greatestPower) :
    value (powerOfTen power) ≤ 10 ^ power * (1 + 1 / 2 ^ 53) := by
  have below : Nat.pow 10 power ≤ greatest * 1 := by
    rw [mul_one]
    exact power_le_greatest bounded
  have positive : 1 ≤ Nat.pow 10 power := Nat.pow_pos (by decide)
  obtain ⟨magnitude, rounded⟩ := of_ratio_of_le_greatest Nat.one_pos below
  have near := value_of_ratio_le Nat.one_pos positive rounded
  rw [powerOfTen, rounded, Option.getD_some]
  simpa using near

/-- Digits of 64 bits with a power of ten are a finite number as long as their exact value is no
greater than the safe bound. -/
theorem decimal_magnitude_of_le_safe {digits : Nat} {power : Int} (fits : digits < 2 ^ 64)
    (below : ∀ places : Nat, power = places → digits * 10 ^ places ≤ safe) :
    ∃ magnitude, decimalMagnitude? digits power = some magnitude := by
  have fewDigits : digits ≤ greatest * 1 := by
    have small : (2 : Nat) ^ 64 ≤ 10 ^ 20 := by norm_num
    have bounded : 10 ^ 20 ≤ greatest := power_le_greatest (by decide)
    omega
  obtain ⟨magnitude, rounded⟩ := of_ratio_of_le_greatest Nat.one_pos fewDigits
  unfold decimalMagnitude?
  rw [rounded, Option.bind_eq_bind, Option.bind_some]
  split
  · exact ⟨0, rfl⟩
  split
  · exact ⟨_, rfl⟩
  · rename_i notZero notNegative
    obtain ⟨places, rfl⟩ := Int.eq_ofNat_of_zero_le (not_lt.1 notNegative)
    have positive : 1 ≤ digits := by
      rcases Nat.eq_zero_or_pos digits with rfl | positive
      · cases rounded
        exact absurd rfl notZero
      · exact positive
    have inside := below places rfl
    have bounded : places ≤ greatestPower :=
      power_le_of_le_safe ((Nat.le_mul_of_pos_left _ positive).trans inside)
    have digitsNear := value_of_ratio_le Nat.one_pos positive rounded
    have powerNear := value_of_power_of_ten bounded
    rw [if_pos (by exact_mod_cast bounded), Int.toNat_natCast]
    apply product_of_le_greatest
    have inside' : (digits : ℚ) * 10 ^ places ≤ safe := by exact_mod_cast inside
    rw [Nat.cast_one, div_one] at digitsNear
    calc value magnitude * value (powerOfTen places)
        ≤ digits * 10 ^ places * (1 + 1 / 2 ^ 53) * (1 + 1 / 2 ^ 53) :=
          product_of_near digitsNear powerNear (value_nonneg _) (Nat.cast_nonneg _)
      _ ≤ safe * (1 + 1 / 2 ^ 53) * (1 + 1 / 2 ^ 53) := enlarged_le inside'
      _ ≤ greatest := safe_twice_rounded

/-! ### Only finite numbers are read -/

theorem zero_finite : 0 < infinite := by decide

theorem quotient_finite (first second : Nat) : (quotient? first second).getD 0 < infinite := by
  cases rounded : quotient? first second with
  | none => exact zero_finite
  | some magnitude => exact of_ratio_finite rounded

theorem divide_finite (steps magnitude power : Nat) :
    divideByPower steps magnitude power < infinite := by
  induction steps generalizing magnitude power with
  | zero => exact zero_finite
  | succ steps ih =>
      unfold divideByPower
      split
      · exact quotient_finite magnitude _
      · exact ih _ _

theorem decimal_magnitude_finite {digits magnitude : Nat} {power : Int}
    (read : decimalMagnitude? digits power = some magnitude) : magnitude < infinite := by
  unfold decimalMagnitude? at read
  obtain ⟨rounded, _, read⟩ := Option.bind_eq_some_iff.1 read
  split at read
  · cases read
    exact zero_finite
  split at read
  · cases read
    exact divide_finite ..
  split at read
  · exact of_ratio_finite read
  · cases read

end BomEvidence.Binary64
