import BomEvidence.Proofs.Binary64.Decimal

/-!
The shortest digits of a magnitude. They lie in the interval of the reals that round to it, and
they are read as a finite number again: three units of the last place below the greatest
magnitude because no rounding leads further, and for the three magnitudes above by computation.
-/

namespace BomEvidence.Binary64

namespace Interval

variable {range : Interval} {point digits : Nat}

theorem le_high_of_holds (holds : range.holds point = true) : point ≤ range.high := by
  unfold Interval.holds at holds
  split at holds <;> simp only [Bool.and_eq_true, decide_eq_true_eq] at holds
  · exact holds.2
  · exact holds.2.le

theorem low_le_of_holds (holds : range.holds point = true) : range.low ≤ point := by
  unfold Interval.holds at holds
  split at holds <;> simp only [Bool.and_eq_true, decide_eq_true_eq] at holds
  · exact holds.1
  · exact holds.1.le

theorem holds_of_neighbour (hit : range.neighbour? = some digits) :
    range.holds (digits * range.divisor) = true := by
  unfold neighbour? at hit
  dsimp only at hit
  split at hit
  · rename_i below above
    split at hit <;> cases hit
    · exact below
    · exact above
  · rename_i below _
    cases hit
    exact below
  · rename_i _ above
    cases hit
    exact above
  · cases hit

theorem le_of_neighbour {power : Int} (positive : 0 < range.divisor)
    (hit : (range.inUnits power).neighbour? = some digits) :
    (digits : ℚ) * 10 ^ power ≤ range.high / range.divisor := by
  have below := le_high_of_holds (holds_of_neighbour hit)
  rw [le_div_iff₀ (by exact_mod_cast positive)]
  obtain ⟨places, rfl | rfl⟩ := power.eq_nat_or_neg
  · simp only [inUnits, Nat.pow_eq, Int.toNat_natCast, Int.toNat_neg_natCast, pow_zero,
      mul_one] at below
    rw [zpow_natCast, mul_assoc, mul_comm (_ ^ places)]
    exact_mod_cast below
  · simp only [inUnits, Nat.pow_eq, Int.toNat_natCast, Int.toNat_neg_natCast, neg_neg, pow_zero,
      mul_one] at below
    rw [zpow_neg, zpow_natCast, ← div_eq_mul_inv, div_mul_eq_mul_div,
      div_le_iff₀ (by positivity)]
    exact_mod_cast below

theorem ne_zero_of_neighbour {power : Int} (positive : 0 < range.low)
    (hit : (range.inUnits power).neighbour? = some digits) : digits ≠ 0 := by
  intro isZero
  have above := low_le_of_holds (holds_of_neighbour hit)
  have low : 0 < (range.inUnits power).low := Nat.mul_pos positive (Nat.pow_pos (by decide))
  rw [isZero, Nat.zero_mul] at above
  omega

end Interval

theorem search_hits {range : Interval} {leading power : Int} {count start digits : Nat}
    (found : search range leading count start = (digits, power)) :
    (digits, power) = (0, 0) ∨ (range.inUnits power).neighbour? = some digits := by
  induction count generalizing start with
  | zero => exact Or.inl found.symm
  | succ count ih =>
      unfold search at found
      dsimp only at found
      split at found
      · rename_i hit
        cases found
        exact Or.inr hit
      · exact ih found

theorem drop_zeros_value (fuel digits : Nat) (power : Int) :
    ((dropZeros fuel digits power).1 : ℚ) * 10 ^ (dropZeros fuel digits power).2 =
      digits * 10 ^ power := by
  induction fuel generalizing digits power with
  | zero => rfl
  | succ fuel ih =>
      unfold dropZeros
      split
      · rename_i trailing
        simp only [Bool.and_eq_true, decide_eq_true_eq] at trailing
        have whole : digits = digits / 10 * 10 := by omega
        have cast : (digits : ℚ) = (digits / 10 : Nat) * 10 := by exact_mod_cast whole
        rw [ih, cast, zpow_add_one₀ (by norm_num)]
        ring
      · rfl

theorem drop_zeros_ne_zero (fuel : Nat) {digits : Nat} (notZero : digits ≠ 0) (power : Int) :
    (dropZeros fuel digits power).1 ≠ 0 := by
  induction fuel generalizing digits power with
  | zero => exact notZero
  | succ fuel ih =>
      unfold dropZeros
      split
      · rename_i trailing
        simp only [Bool.and_eq_true, decide_eq_true_eq] at trailing
        exact ih (by omega) _
      · exact notZero

theorem drop_zeros_zero (fuel : Nat) : dropZeros fuel 0 0 = (0, 0) := by
  cases fuel <;> rfl

/-! ### The shortest digits -/

theorem significand_pos {magnitude : Nat} (notZero : magnitude ≠ 0) : 0 < significand magnitude := by
  unfold significand fractionSize
  split <;> omega

theorem interval_high (magnitude : Nat) :
    ((interval magnitude).high : ℚ) / (interval magnitude).divisor =
      (significand magnitude + 1 / 2) * 2 ^ exponent magnitude := by
  have quarter : (2 : ℚ) ^ exponent magnitude = 2 ^ (exponent magnitude - 2) * 4 := by
    rw [zpow_sub₀ two_ne_zero]
    norm_num
  unfold interval
  dsimp only
  rw [quarter]
  obtain ⟨amount, same | same⟩ := (exponent magnitude - 2).eq_nat_or_neg <;> rw [same]
  · simp only [Nat.pow_eq, Int.toNat_natCast, Int.toNat_neg_natCast]
    push_cast
    rw [zpow_natCast]
    ring
  · simp only [Nat.pow_eq, Int.toNat_natCast, Int.toNat_neg_natCast, neg_neg]
    push_cast
    rw [zpow_neg, zpow_natCast]
    field_simp
    ring

theorem interval_divisor_pos (magnitude : Nat) : 0 < (interval magnitude).divisor :=
  Nat.pow_pos (by decide)

theorem interval_low_pos {magnitude : Nat} (notZero : magnitude ≠ 0) :
    0 < (interval magnitude).low := by
  have positive := significand_pos notZero
  apply Nat.mul_pos
  · split <;> omega
  · exact Nat.pow_pos (by decide)

theorem shortest_le (magnitude : Nat) :
    ((shortest magnitude).1 : ℚ) * 10 ^ (shortest magnitude).2 ≤
      (significand magnitude + 1 / 2) * 2 ^ exponent magnitude := by
  let range := interval magnitude
  let found := search range (floorLog10 range.value range.divisor) 17 0
  have kept : ((shortest magnitude).1 : ℚ) * 10 ^ (shortest magnitude).2 =
      found.1 * 10 ^ found.2 := drop_zeros_value 20 found.1 found.2
  rw [kept, ← interval_high]
  rcases search_hits (Prod.eta found).symm with nothing | hit
  · obtain ⟨noDigits, _⟩ := Prod.mk.inj nothing
    rw [noDigits, Nat.cast_zero, zero_mul]
    positivity
  · exact Interval.le_of_neighbour (interval_divisor_pos magnitude) hit

theorem shortest_ne_zero {magnitude : Nat} (notZero : magnitude ≠ 0) :
    shortest magnitude = (0, 0) ∨ (shortest magnitude).1 ≠ 0 := by
  let range := interval magnitude
  let found := search range (floorLog10 range.value range.divisor) 17 0
  rcases search_hits (Prod.eta found).symm with nothing | hit
  · left
    change dropZeros 20 found.1 found.2 = (0, 0)
    obtain ⟨noDigits, noPower⟩ := Prod.mk.inj nothing
    rw [noDigits, noPower, drop_zeros_zero]
  · right
    exact drop_zeros_ne_zero 20
      (Interval.ne_zero_of_neighbour (interval_low_pos notZero) hit) found.2

theorem exponent_le {magnitude : Nat} (finite : magnitude < infinite) :
    exponent magnitude ≤ 971 := by
  unfold exponent
  by_cases small : magnitude < fractionSize
  · rw [if_pos small]
    decide
  · rw [if_neg small]
    simp only [infinite, fractionSize, lowestExponent] at *
    omega

theorem significand_lt (magnitude : Nat) : significand magnitude < 2 * fractionSize := by
  unfold significand
  have below := Nat.mod_lt magnitude (y := fractionSize) (by decide)
  split <;> omega

theorem significand_of_last {magnitude : Nat} (inside : magnitude + 3 < infinite)
    (last : exponent magnitude = 971) : significand magnitude + 4 ≤ 2 * fractionSize := by
  unfold exponent at last
  by_cases small : magnitude < fractionSize
  · rw [if_pos small] at last
    cases last
  · rw [if_neg small] at last
    rw [significand, if_neg small]
    simp only [infinite, fractionSize, lowestExponent] at *
    omega

theorem last_unit : ((2 ^ 971 : Nat) : ℚ) = 2 ^ (970 : Int) * 2 := by
  rw [Nat.cast_pow, pow_succ]
  rfl

theorem half_above_le_safe {magnitude : Nat} (inside : magnitude + 3 < infinite) :
    ((significand magnitude : ℚ) + 1 / 2) * 2 ^ exponent magnitude ≤ safe := by
  have atMost := exponent_le ((Nat.le_add_right _ 3).trans_lt inside)
  rw [safe, Nat.cast_mul, last_unit]
  rcases atMost.lt_or_eq with less | last
  · have whole : (significand magnitude : ℚ) + 1 ≤ (2 * fractionSize : Nat) := by
      exact_mod_cast significand_lt magnitude
    have factor : (significand magnitude : ℚ) + 1 / 2 ≤ (2 * fractionSize : Nat) := by linarith
    have power : (2 : ℚ) ^ exponent magnitude ≤ 2 ^ (970 : Int) :=
      zpow_le_zpow_right₀ one_le_two (Int.le_of_lt_add_one less)
    refine (mul_le_mul factor power (zpow_nonneg zero_le_two _) (Nat.cast_nonneg _)).trans ?_
    have positive : (0 : ℚ) ≤ 2 ^ (970 : Int) := zpow_nonneg zero_le_two 970
    generalize (2 : ℚ) ^ (970 : Int) = unit at positive ⊢
    norm_num [fractionSize]
    linarith
  · have whole : (significand magnitude : ℚ) + 4 ≤ (2 * fractionSize : Nat) := by
      exact_mod_cast significand_of_last inside last
    have factor : (significand magnitude : ℚ) + 1 / 2 ≤ (2 ^ 53 - 3 : Nat) := by
      norm_num [fractionSize] at whole ⊢
      linarith
    have next : (2 : ℚ) ^ (971 : Int) = 2 ^ (970 : Int) * 2 := zpow_add_one₀ two_ne_zero 970
    rw [last, next]
    exact mul_le_mul_of_nonneg_right factor
      (mul_nonneg (zpow_nonneg zero_le_two 970) zero_le_two)

end BomEvidence.Binary64
