import BomEvidence.Binary64.Basic
import Mathlib.Algebra.Order.Field.Power
import Mathlib.Algebra.Order.Field.Rat
import Mathlib.Tactic.FieldSimp
import Mathlib.Tactic.GCongr
import Mathlib.Tactic.Linarith
import Mathlib.Tactic.Positivity
import Mathlib.Tactic.Ring

/-!
How far rounding can lead. A ratio is rounded to a magnitude that is larger by half a unit of its
last place at most, and a ratio that is no greater than the greatest finite magnitude is rounded
to a finite one.
-/

namespace BomEvidence.Binary64

def value (magnitude : Nat) : ℚ := significand magnitude * 2 ^ exponent magnitude

theorem value_nonneg (magnitude : Nat) : 0 ≤ value magnitude :=
  mul_nonneg (Nat.cast_nonneg _) (by positivity)

def greatest : Nat := (2 ^ 53 - 1) * 2 ^ 971

theorem greatest_eq : (greatest : ℚ) = (2 ^ 53 - 1 : Nat) * 2 ^ (971 : Int) := by
  rw [greatest, Nat.cast_mul, Nat.cast_pow, Nat.cast_two]
  rfl

theorem greatest_lt : (greatest : ℚ) < 2 ^ (1024 : Int) := by
  have split : (2 : ℚ) ^ (1024 : Int) = 2 ^ 53 * 2 ^ (971 : Int) := by
    rw [← zpow_natCast, ← zpow_add₀ two_ne_zero]
    rfl
  rw [split, greatest_eq]
  apply mul_lt_mul_of_pos_right
  · norm_num
  · positivity

/-! ### The parts of rounding -/

section Parts

variable {dividend divisor : Nat}

theorem scale_spec (dividend : Nat) (positive : 0 < divisor) (power : Int) :
    0 < (scale dividend divisor power).2 ∧
      ((scale dividend divisor power).1 : ℚ) / (scale dividend divisor power).2 =
        dividend / divisor * 2 ^ power := by
  have divisorPositive : (0 : ℚ) < divisor := by exact_mod_cast positive
  obtain ⟨amount, rfl | rfl⟩ := power.eq_nat_or_neg
  · simp only [scale, Nat.pow_eq, Int.toNat_natCast, Int.toNat_neg_natCast]
    refine ⟨by positivity, ?_⟩
    push_cast
    rw [zpow_natCast]
    ring
  · simp only [scale, Nat.pow_eq, Int.toNat_natCast, Int.toNat_neg_natCast, neg_neg]
    refine ⟨by positivity, ?_⟩
    push_cast
    rw [zpow_neg, zpow_natCast]
    field_simp

theorem quotient_between (dividendPositive : 0 < dividend) (divisorPositive : 0 < divisor) :
    (2 : ℚ) ^ ((dividend.log2 - divisor.log2 : Int) - 1) ≤ dividend / divisor ∧
      (dividend : ℚ) / divisor < 2 ^ ((dividend.log2 - divisor.log2 : Int) + 1) := by
  have positive : (0 : ℚ) < divisor := by exact_mod_cast divisorPositive
  have dividendLow : (2 : ℚ) ^ (dividend.log2 : Int) ≤ dividend := by
    rw [zpow_natCast]
    exact_mod_cast Nat.log2_self_le dividendPositive.ne'
  have dividendHigh : (dividend : ℚ) < 2 ^ ((dividend.log2 : Int) + 1) := by
    have below : dividend < 2 ^ (dividend.log2 + 1) := Nat.lt_log2_self
    exact_mod_cast below
  have divisorLow : (2 : ℚ) ^ (divisor.log2 : Int) ≤ divisor := by
    rw [zpow_natCast]
    exact_mod_cast Nat.log2_self_le divisorPositive.ne'
  have divisorHigh : (divisor : ℚ) < 2 ^ ((divisor.log2 : Int) + 1) := by
    have below : divisor < 2 ^ (divisor.log2 + 1) := Nat.lt_log2_self
    exact_mod_cast below
  constructor
  · rw [le_div_iff₀ positive]
    calc (2 : ℚ) ^ ((dividend.log2 - divisor.log2 : Int) - 1) * divisor
        ≤ 2 ^ ((dividend.log2 - divisor.log2 : Int) - 1) * 2 ^ ((divisor.log2 : Int) + 1) := by
          gcongr
      _ = 2 ^ (dividend.log2 : Int) := by
          rw [← zpow_add₀ two_ne_zero]
          congr 1
          ring
      _ ≤ dividend := dividendLow
  · rw [div_lt_iff₀ positive]
    calc (dividend : ℚ) < 2 ^ ((dividend.log2 : Int) + 1) := dividendHigh
      _ = 2 ^ ((dividend.log2 - divisor.log2 : Int) + 1) * 2 ^ (divisor.log2 : Int) := by
          rw [← zpow_add₀ two_ne_zero]
          congr 1
          ring
      _ ≤ 2 ^ ((dividend.log2 - divisor.log2 : Int) + 1) * divisor := by gcongr

theorem floor_log2_spec (dividendPositive : 0 < dividend) (divisorPositive : 0 < divisor) :
    (2 : ℚ) ^ floorLog2 dividend divisor ≤ dividend / divisor ∧
      (dividend : ℚ) / divisor < 2 ^ (floorLog2 dividend divisor + 1) := by
  obtain ⟨low, high⟩ := quotient_between dividendPositive divisorPositive
  let estimate : Int := dividend.log2 - divisor.log2
  obtain ⟨scaledPositive, scaled⟩ := scale_spec dividend divisorPositive (-estimate)
  have scaledPositive' : (0 : ℚ) < (scale dividend divisor (-estimate)).2 := by
    exact_mod_cast scaledPositive
  have unscale : (dividend : ℚ) / divisor =
      (scale dividend divisor (-estimate)).1 / (scale dividend divisor (-estimate)).2 *
        2 ^ estimate := by
    rw [scaled, mul_assoc, ← zpow_add₀ two_ne_zero]
    simp
  unfold floorLog2
  dsimp only
  split
  · rename_i atLeast
    refine ⟨?_, high⟩
    have one : (1 : ℚ) ≤ (scale dividend divisor (-estimate)).1 /
        (scale dividend divisor (-estimate)).2 := by
      rw [le_div_iff₀ scaledPositive', one_mul]
      exact Nat.cast_le.2 atLeast
    rw [unscale]
    exact le_mul_of_one_le_left (by positivity) one
  · rename_i less
    refine ⟨low, ?_⟩
    have one : ((scale dividend divisor (-estimate)).1 : ℚ) /
        (scale dividend divisor (-estimate)).2 < 1 := by
      rw [div_lt_iff₀ scaledPositive', one_mul]
      exact Nat.cast_lt.2 (not_le.1 less)
    rw [unscale, sub_add_cancel]
    exact mul_lt_of_lt_one_left (by positivity) one

theorem round_quotient_le (dividend : Nat) (positive : 0 < divisor) :
    (roundQuotient dividend divisor : ℚ) ≤ dividend / divisor + 1 / 2 := by
  have divisorPositive : (0 : ℚ) < divisor := by exact_mod_cast positive
  have parts := Nat.div_add_mod dividend divisor
  have twice : 2 * (divisor * roundQuotient dividend divisor) ≤ 2 * dividend + divisor := by
    unfold roundQuotient
    dsimp only
    split
    · rename_i up
      have half : divisor ≤ 2 * (dividend % divisor) := by
        simp only [Bool.or_eq_true, Bool.and_eq_true, decide_eq_true_eq] at up
        omega
      rw [Nat.mul_add, Nat.mul_one]
      omega
    · omega
  have twice' : 2 * ((divisor : ℚ) * roundQuotient dividend divisor) ≤ 2 * dividend + divisor := by
    exact_mod_cast twice
  rw [← sub_le_iff_le_add, le_div_iff₀ divisorPositive]
  linarith

theorem round_quotient_le_of_le {bound : Nat} (positive : 0 < divisor)
    (below : dividend ≤ bound * divisor) : roundQuotient dividend divisor ≤ bound := by
  have parts := Nat.div_add_mod dividend divisor
  have whole : dividend / divisor ≤ bound := Nat.div_le_of_le_mul (by rwa [Nat.mul_comm])
  unfold roundQuotient
  dsimp only
  split
  · rename_i up
    rcases Nat.lt_or_eq_of_le whole with less | same
    · exact less
    · have none : dividend % divisor = 0 := by
        rw [same, Nat.mul_comm divisor bound] at parts
        omega
      simp only [Bool.or_eq_true, Bool.and_eq_true, decide_eq_true_eq] at up
      omega
  · exact whole

theorem le_round_quotient {bound : Nat} (positive : 0 < divisor)
    (above : bound * divisor ≤ dividend) : bound ≤ roundQuotient dividend divisor := by
  have whole : bound ≤ dividend / divisor := (Nat.le_div_iff_mul_le positive).2 above
  unfold roundQuotient
  dsimp only
  split <;> omega

end Parts

/-! ### Rounding to a magnitude -/

/-- A significand that rounding carried to 54 bits is that of the next exponent. -/
theorem value_of_parts {power : Int} (low : lowestExponent ≤ power) {bits : Nat}
    (atLeast : fractionSize ≤ bits) (atMost : bits ≤ 2 * fractionSize) :
    value ((power - lowestExponent).toNat * fractionSize + bits) = bits * 2 ^ power := by
  obtain ⟨step, rfl⟩ : ∃ step : Nat, power = step + lowestExponent :=
    ⟨(power - lowestExponent).toNat, by omega⟩
  rw [add_sub_cancel_right, Int.toNat_natCast]
  have large : ¬step * fractionSize + bits < fractionSize := by omega
  unfold value significand exponent
  rw [if_neg large, if_neg large]
  rcases Nat.lt_or_eq_of_le atMost with less | carried
  · have quotient : (step * fractionSize + bits) / fractionSize = step + 1 := by
      simp only [fractionSize] at *
      omega
    have rest : (step * fractionSize + bits) % fractionSize + fractionSize = bits := by
      simp only [fractionSize] at *
      omega
    rw [quotient, rest]
    simp
  · have quotient : (step * fractionSize + bits) / fractionSize = step + 2 := by
      simp only [fractionSize] at *
      omega
    have rest : (step * fractionSize + bits) % fractionSize + fractionSize = fractionSize := by
      simp only [fractionSize] at *
      omega
    have next : ((step + 2 : Nat) : Int) - 1 + lowestExponent = step + lowestExponent + 1 := by
      push_cast
      ring
    rw [quotient, rest, carried, next, zpow_add_one₀ two_ne_zero]
    push_cast
    ring

section Ratios

variable {dividend divisor magnitude : Nat}

theorem of_ratio_finite (rounded : ofRatio? dividend divisor = some magnitude) :
    magnitude < infinite := by
  unfold ofRatio? at rounded
  split at rounded
  · cases rounded
    decide
  · dsimp only at rounded
    split at rounded
    · cases rounded
      assumption
    · cases rounded

def powerOf (dividend divisor : Nat) : Int := max lowestExponent (floorLog2 dividend divisor - 52)

def bitsOf (dividend divisor : Nat) : Nat :=
  roundQuotient (scale dividend divisor (-powerOf dividend divisor)).1
    (scale dividend divisor (-powerOf dividend divisor)).2

theorem of_ratio_eq (dividendPositive : 0 < dividend) : ofRatio? dividend divisor =
    if (powerOf dividend divisor - lowestExponent).toNat * fractionSize + bitsOf dividend divisor <
        infinite then
      some ((powerOf dividend divisor - lowestExponent).toNat * fractionSize +
        bitsOf dividend divisor)
    else none := by
  rw [ofRatio?, if_neg dividendPositive.ne']
  rfl

theorem bits_of_le {bound : Nat} (divisorPositive : 0 < divisor)
    (below : (dividend : ℚ) / divisor ≤ bound * 2 ^ powerOf dividend divisor) :
    bitsOf dividend divisor ≤ bound := by
  obtain ⟨positive, scaled⟩ := scale_spec dividend divisorPositive
    (-powerOf dividend divisor)
  apply round_quotient_le_of_le positive
  have quotient : ((scale dividend divisor (-powerOf dividend divisor)).1 : ℚ) /
      (scale dividend divisor (-powerOf dividend divisor)).2 ≤ bound := by
    rw [scaled, zpow_neg, ← div_eq_mul_inv]
    exact (div_le_iff₀ (by positivity)).2 below
  rw [div_le_iff₀ (by exact_mod_cast positive)] at quotient
  exact_mod_cast quotient

theorem bits_of_le_size (dividendPositive : 0 < dividend) (divisorPositive : 0 < divisor) :
    bitsOf dividend divisor ≤ 2 * fractionSize := by
  apply bits_of_le divisorPositive
  have fits : floorLog2 dividend divisor + 1 ≤ 53 + powerOf dividend divisor := by
    unfold powerOf
    omega
  calc (dividend : ℚ) / divisor
      ≤ 2 ^ (floorLog2 dividend divisor + 1) :=
        (floor_log2_spec dividendPositive divisorPositive).2.le
    _ ≤ 2 ^ (53 + powerOf dividend divisor) := zpow_le_zpow_right₀ one_le_two fits
    _ = (2 * fractionSize : Nat) * 2 ^ powerOf dividend divisor := by
        rw [zpow_add₀ two_ne_zero]
        norm_num [fractionSize]

theorem of_ratio_of_le_greatest (divisorPositive : 0 < divisor)
    (below : dividend ≤ greatest * divisor) :
    ∃ magnitude, ofRatio? dividend divisor = some magnitude := by
  rcases Nat.eq_zero_or_pos dividend with rfl | dividendPositive
  · exact ⟨0, rfl⟩
  · have ratio : (dividend : ℚ) / divisor ≤ greatest := by
      rw [div_le_iff₀ (by exact_mod_cast divisorPositive)]
      exact_mod_cast below
    have bits := bits_of_le_size dividendPositive divisorPositive
    have power : floorLog2 dividend divisor < 1024 := by
      have less : (2 : ℚ) ^ floorLog2 dividend divisor < 2 ^ (1024 : Int) := by
        calc (2 : ℚ) ^ floorLog2 dividend divisor ≤ dividend / divisor :=
              (floor_log2_spec dividendPositive divisorPositive).1
          _ ≤ greatest := ratio
          _ < 2 ^ (1024 : Int) := greatest_lt
      exact (zpow_lt_zpow_iff_right₀ one_lt_two).1 less
    -- On the last exponent the significand must not carry.
    have last : powerOf dividend divisor = 971 → bitsOf dividend divisor ≤ 2 ^ 53 - 1 := by
      intro atLast
      apply bits_of_le divisorPositive
      rw [atLast]
      exact ratio.trans_eq greatest_eq
    rw [of_ratio_eq dividendPositive, if_pos]
    · exact ⟨_, rfl⟩
    · unfold powerOf at last ⊢
      simp only [fractionSize, infinite, lowestExponent] at *
      omega

/-- Rounding a ratio of at least one makes it larger by half a unit of the last place at most. -/
theorem value_of_ratio_le (divisorPositive : 0 < divisor) (atLeast : divisor ≤ dividend)
    (rounded : ofRatio? dividend divisor = some magnitude) :
    value magnitude ≤ dividend / divisor * (1 + 1 / 2 ^ 53) := by
  have dividendPositive : 0 < dividend := divisorPositive.trans_le atLeast
  obtain ⟨low, high⟩ := floor_log2_spec dividendPositive divisorPositive
  have one : (1 : ℚ) ≤ dividend / divisor := by
    rw [le_div_iff₀ (by exact_mod_cast divisorPositive), one_mul]
    exact_mod_cast atLeast
  have nonnegative : 0 < floorLog2 dividend divisor + 1 := by
    apply (zpow_lt_zpow_iff_right₀ (one_lt_two (α := ℚ))).1
    rw [zpow_zero]
    exact one.trans_lt high
  have power : powerOf dividend divisor = floorLog2 dividend divisor - 52 := by
    unfold powerOf lowestExponent
    omega
  obtain ⟨scaledPositive, scaled⟩ := scale_spec dividend divisorPositive
    (-powerOf dividend divisor)
  have unit : (2 : ℚ) ^ powerOf dividend divisor * 2 ^ 52 ≤ dividend / divisor := by
    refine le_of_eq_of_le ?_ low
    rw [power, ← zpow_natCast, ← zpow_add₀ two_ne_zero]
    congr 1
    simp
  have bits : (bitsOf dividend divisor : ℚ) * 2 ^ powerOf dividend divisor ≤
      dividend / divisor + 2 ^ powerOf dividend divisor / 2 := by
    have up : (bitsOf dividend divisor : ℚ) ≤ _ := round_quotient_le _ scaledPositive
    rw [scaled, zpow_neg, ← div_eq_mul_inv] at up
    calc (bitsOf dividend divisor : ℚ) * 2 ^ powerOf dividend divisor
        ≤ (dividend / divisor / 2 ^ powerOf dividend divisor + 1 / 2) *
            2 ^ powerOf dividend divisor := by gcongr
      _ = dividend / divisor + 2 ^ powerOf dividend divisor / 2 := by
          rw [add_mul, div_mul_cancel₀ _ (by positivity)]
          ring
  have full : fractionSize ≤ bitsOf dividend divisor := by
    apply le_round_quotient scaledPositive
    have quotient : (2 : ℚ) ^ 52 ≤ (scale dividend divisor (-powerOf dividend divisor)).1 /
        (scale dividend divisor (-powerOf dividend divisor)).2 := by
      rw [scaled, zpow_neg, ← div_eq_mul_inv, le_div_iff₀ (by positivity), mul_comm]
      exact unit
    rw [le_div_iff₀ (by exact_mod_cast scaledPositive)] at quotient
    exact_mod_cast quotient
  rw [of_ratio_eq dividendPositive] at rounded
  split at rounded
  · cases rounded
    have low : lowestExponent ≤ powerOf dividend divisor := le_max_left _ _
    rw [value_of_parts low full (bits_of_le_size dividendPositive divisorPositive)]
    refine bits.trans ?_
    linarith
  · cases rounded

end Ratios

end BomEvidence.Binary64
