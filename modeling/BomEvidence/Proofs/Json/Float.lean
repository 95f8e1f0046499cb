import BomEvidence.Proofs.Binary64.Shortest
import BomEvidence.Proofs.Json.Numeral

/-!
Floating-point numbers are read from what is written of them. The text of a number shows the
shortest digits of its magnitude, in one of four forms. A finite number is read as a number again,
which need not be the same one, as the digits and the power of ten are rounded apart.
-/

namespace BomEvidence.Json.Tree

/-! ### Gathered digits -/

theorem gather_lt {start : Nat} (below : start < wordLimit) (places : List Nat) :
    (gather start places).1 < wordLimit := by
  induction places generalizing start with
  | nil => exact below
  | cons digit rest ih =>
      unfold gather
      split
      · rename_i fits
        exact ih fits
      · exact below

theorem gather_left_le (start : Nat) (places : List Nat) :
    (gather start places).2 ≤ places.length := by
  induction places generalizing start with
  | nil => exact Nat.le_refl 0
  | cons digit rest ih =>
      unfold gather
      split
      · exact (ih _).trans (Nat.le_succ _)
      · exact Nat.le_refl _

theorem gather_few (count : Nat) {start : Nat} {places : List Nat} (below : start < 10 ^ count)
    (small : ∀ digit ∈ places, digit < 10) (few : count + places.length ≤ 19) :
    (gather start places).2 = 0 := by
  induction places generalizing start count with
  | nil => rfl
  | cons digit rest ih =>
      obtain ⟨first, others⟩ := List.forall_mem_cons.1 small
      rw [List.length_cons] at few
      have next : start * 10 + digit < 10 ^ (count + 1) := by
        rw [pow_succ]
        omega
      have fits : start * 10 + digit < wordLimit := by
        have bounded : 10 ^ (count + 1) ≤ 10 ^ 19 := pow_le_pow_right₀ (by decide) (by omega)
        have limit : 10 ^ 19 < wordLimit := by decide
        omega
      rw [gather, if_pos fits]
      exact ih (count + 1) next others (by omega)

theorem le_fold (start : Nat) (places : List Nat) :
    start * 10 ^ places.length ≤ places.foldl (fun amount digit => amount * 10 + digit) start := by
  induction places generalizing start with
  | nil => simp
  | cons digit rest ih =>
      have next := ih (start * 10 + digit)
      rw [List.foldl_cons, List.length_cons, pow_succ']
      calc start * (10 * 10 ^ rest.length) = start * 10 * 10 ^ rest.length := by ring
        _ ≤ (start * 10 + digit) * 10 ^ rest.length := Nat.mul_le_mul_right _ (Nat.le_add_right _ _)
        _ ≤ _ := next

theorem gather_le (start : Nat) (places : List Nat) :
    (gather start places).1 * 10 ^ (gather start places).2 ≤
      places.foldl (fun amount digit => amount * 10 + digit) start := by
  induction places generalizing start with
  | nil => simp [gather]
  | cons digit rest ih =>
      unfold gather
      split
      · exact ih _
      · exact le_fold start (digit :: rest)

theorem nat_of_digits_of (value : Nat) : natOfDigits (digitsOf value) = value := by
  induction value using Nat.strongRecOn with
  | _ value ih =>
      by_cases small : value < 10
      · rw [digits_of_lt small]
        simp [natOfDigits]
      · have before : natOfDigits (digitsOf (value / 10)) = value / 10 :=
          ih (value / 10) (by omega)
        rw [digits_of_le (Nat.le_of_not_lt small)]
        unfold natOfDigits at before ⊢
        rw [List.foldl_append, before, List.foldl_cons, List.foldl_nil]
        omega

/-! ### The value of a decimal -/

namespace Numeral

def shift (numeral : Numeral) : Int :=
  match numeral.exponent with
  | none => 0
  | some (true, places) => -(natOfDigits places : Int)
  | some (false, places) => natOfDigits places

def IsDecimal (numeral : Numeral) : Prop :=
  numeral.fraction.isSome = true ∨ numeral.exponent.isSome = true

theorem value_of_gathered {numeral : Numeral} (decimal : numeral.IsDecimal) {amount : Nat}
    (gathered : gather 0 numeral.whole = (amount, 0)) :
    let places := numeral.fraction.getD []
    let (digits, left) := gather amount places
    numeral.value? = (Binary64.ofDecimal? numeral.negative digits
      (numeral.shift - (places.length - left : Nat))).map .float := by
  obtain ⟨negative, whole, fraction, exponent⟩ := numeral
  unfold value?
  dsimp only at gathered ⊢
  rw [gathered]
  cases fraction with
  | none =>
      cases exponent with
      | none => rcases decimal with absent | absent <;> cases absent
      | some exponent =>
          obtain ⟨_ | _, places⟩ := exponent <;> simp [shift]
  | some places =>
      cases exponent with
      | none => simp [shift]
      | some exponent => obtain ⟨_ | _, shown⟩ := exponent <;> simp [shift]

/-- A decimal has a value where its gathered digits with their power of ten are a finite number. -/
theorem value_of_decimal {numeral : Numeral} (decimal : numeral.IsDecimal) {amount : Nat}
    (gathered : gather 0 numeral.whole = (amount, 0))
    (finite : ∃ magnitude, Binary64.decimalMagnitude? (gather amount (numeral.fraction.getD [])).1
      (numeral.shift - ((numeral.fraction.getD []).length -
        (gather amount (numeral.fraction.getD [])).2 : Nat)) = some magnitude) :
    ∃ value, numeral.value? = some (.float value) := by
  obtain ⟨magnitude, read⟩ := finite
  have value := value_of_gathered decimal gathered
  dsimp only at value
  rw [value, Binary64.ofDecimal?, read]
  exact ⟨_, rfl⟩

theorem value_of_small {numeral : Numeral} (decimal : numeral.IsDecimal)
    (small : ∀ digit ∈ numeral.whole, digit < 10) (few : numeral.whole.length ≤ 19)
    (shrinks : numeral.shift ≤ 0) : ∃ value, numeral.value? = some (.float value) := by
  have whole : (gather 0 numeral.whole).2 = 0 := gather_few 0 (by decide) small (by omega)
  have gathered : gather 0 numeral.whole = ((gather 0 numeral.whole).1, 0) := Prod.ext rfl whole
  have start : (gather 0 numeral.whole).1 < wordLimit := gather_lt (by decide) numeral.whole
  have below := gather_lt start (numeral.fraction.getD [])
  apply value_of_decimal decimal gathered
  apply Binary64.decimal_magnitude_of_le_safe below
  intro places power
  have none : places = 0 := by omega
  rw [none, pow_zero, Nat.mul_one]
  exact below.le.trans Binary64.word_le_safe

end Numeral

/-! ### The forms of a floating-point number -/

def exponentOf (leading : Int) : Bool × List Nat := (leading < 0, digitsOf leading.natAbs)

def decimalNumeral (negative : Bool) (digits : Nat) (power : Int) : Numeral :=
  let places := digitsOf digits
  let leading : Int := places.length - 1 + power
  if leading < -5 || 16 ≤ leading then
    ⟨negative, places.take 1, if places.length ≤ 1 then none else some (places.drop 1),
      some (exponentOf leading)⟩
  else if 0 ≤ power then ⟨negative, places ++ List.replicate power.toNat 0, some [0], none⟩
  else if 0 ≤ leading then
    ⟨negative, places.take (leading.toNat + 1), some (places.drop (leading.toNat + 1)), none⟩
  else ⟨negative, [0], some (List.replicate (leading.natAbs - 1) 0 ++ places), none⟩

def floatNumeral (number : Binary64) : Numeral :=
  if number.magnitude = 0 then decimalNumeral number.isNegative 0 0
  else
    let shortest := Binary64.shortest number.magnitude
    decimalNumeral number.isNegative shortest.1 shortest.2

theorem pointed_shown (places : List Nat) :
    Binary64.pointed (shownDigits places) = shownDigits (places.take 1) ++
      Numeral.shownFraction (if places.length ≤ 1 then none else some (places.drop 1)) := by
  rcases places with _ | ⟨first, _ | ⟨second, rest⟩⟩ <;>
    simp [shownDigits, Binary64.pointed, Numeral.shownFraction]

theorem decimal_numeral_negative (negative : Bool) (digits : Nat) (power : Int) :
    (decimalNumeral negative digits power).negative = negative := by
  unfold decimalNumeral
  dsimp only
  split
  · rfl
  split
  · rfl
  split <;> rfl

theorem text_shown (number : Binary64) : number.text.toList = (floatNumeral number).shown := by
  unfold Binary64.text floatNumeral
  by_cases zero : number.magnitude = 0
  · cases number.isNegative <;> simp [zero] <;> rfl
  · rw [if_neg zero, if_neg zero]
    generalize Binary64.shortest number.magnitude = shortest
    obtain ⟨digits, power⟩ := shortest
    have length : (Nat.toDigits 10 digits).length = (digitsOf digits).length := by
      rw [← shown_digits_of, shownDigits, List.length_map]
    unfold Numeral.shown Numeral.shownSign
    dsimp only
    rw [decimal_numeral_negative, String.toList_ofList, length, ← shown_digits_of]
    apply congrArg (HAppend.hAppend (if number.isNegative then ['-'] else []))
    unfold decimalNumeral
    dsimp only
    split
    · rw [← shown_digits_of, pointed_shown]
      simp [Numeral.shownExponent, exponentOf]
    split
    · simp [Numeral.shownFraction, Numeral.shownExponent, shownDigits]
      rfl
    split
    · simp [Numeral.shownFraction, Numeral.shownExponent, shownDigits]
    · simp [Numeral.shownFraction, Numeral.shownExponent, shownDigits]

section Decimal

variable {negative : Bool} {digits : Nat} {power : Int}

theorem alone_of_head {places : List Nat} (digits : Nat)
    (first : places.head? = (digitsOf digits).head?) (settled : digits = 0 → places.length = 1) :
    places.head? = some 0 → places.length = 1 := by
  intro zero
  apply settled
  by_contra some
  exact digits_of_head (Nat.pos_of_ne_zero some) (first ▸ zero)

theorem is_digits_take {places : List Nat} (formed : IsDigits places) (count : Nat) :
    IsDigits (places.take (count + 1)) := by
  constructor
  · simp [formed.nonempty]
  · exact fun digit member => formed.small digit (List.mem_of_mem_take member)

theorem is_digits_drop {places : List Nat} (formed : IsDigits places) {count : Nat}
    (more : count < places.length) : IsDigits (places.drop count) := by
  constructor
  · simp [more]
  · exact fun digit member => formed.small digit (List.mem_of_mem_drop member)

theorem is_digits_append {first second : List Nat} (firstFormed : IsDigits first)
    (small : ∀ digit ∈ second, digit < 10) :
    IsDigits (first ++ second) ∧ IsDigits (second ++ first) := by
  have all : ∀ digit, digit ∈ first ∨ digit ∈ second → digit < 10 := by
    intro digit member
    rcases member with inFirst | inSecond
    · exact firstFormed.small digit inFirst
    · exact small digit inSecond
  constructor
  · constructor
    · simp [firstFormed.nonempty]
    · exact fun digit member => all digit (List.mem_append.1 member)
  · constructor
    · simp [firstFormed.nonempty]
    · exact fun digit member => all digit (List.mem_append.1 member).symm

theorem is_digits_zeros {places : List Nat} (formed : IsDigits places) (count : Nat) :
    IsDigits (places ++ List.replicate count 0) ∧ IsDigits (List.replicate count 0 ++ places) := by
  apply is_digits_append formed
  intro digit member
  rw [List.eq_of_mem_replicate member]
  decide

theorem is_digits_zero : IsDigits [0] := ⟨by decide, by decide⟩

theorem decimal_numeral_formed (settled : digits = 0 → power = 0) :
    (decimalNumeral negative digits power).WellFormed := by
  have formed := is_digits_of digits
  have length := List.length_pos_iff.2 formed.nonempty
  unfold decimalNumeral
  dsimp only
  split
  -- One digit before the point, and an exponent.
  · constructor
    · exact is_digits_take formed 0
    · intro _
      rw [List.length_take]
      omega
    · intro places shown
      dsimp only at shown
      split at shown
      · cases shown
      · cases shown
        exact is_digits_drop formed (by omega)
    · intro exponent shown
      cases shown
      exact is_digits_of _
  split
  -- Zeros behind the digits.
  · constructor
    · exact (is_digits_zeros formed _).1
    · apply alone_of_head digits
      · simp [List.head?_append, List.head?_eq_some_head formed.nonempty]
      · intro none
        rw [settled none, none]
        rfl
    · intro places shown
      cases shown
      exact is_digits_zero
    · exact nofun
  split
  -- The point between two digits.
  · constructor
    · exact is_digits_take formed _
    · apply alone_of_head digits
      · simp [List.head?_take]
      · intro none
        have := settled none
        omega
    · intro places shown
      cases shown
      exact is_digits_drop formed (by omega)
    · exact nofun
  -- Zeros before the digits.
  · constructor
    · exact is_digits_zero
    · exact fun _ => rfl
    · intro places shown
      cases shown
      exact (is_digits_zeros formed _).2
    · exact nofun

theorem float_numeral_formed (number : Binary64) : (floatNumeral number).WellFormed := by
  unfold floatNumeral
  split
  · exact decimal_numeral_formed fun _ => rfl
  · rename_i notZero
    have digits := Binary64.shortest_ne_zero notZero
    generalize Binary64.shortest number.magnitude = shortest at digits ⊢
    apply decimal_numeral_formed
    intro none
    rcases digits with nothing | some
    · rw [nothing]
    · exact absurd none some

/-! ### The value of a floating-point number that is read -/

theorem shift_of_exponent {numeral : Numeral} {leading : Int}
    (shown : numeral.exponent = some (exponentOf leading)) : numeral.shift = leading := by
  unfold Numeral.shift
  rw [shown, exponentOf]
  by_cases below : leading < 0
  · simp only [below, decide_true, nat_of_digits_of]
    omega
  · simp only [below, decide_false, nat_of_digits_of]
    omega

theorem rest_of_places (places : List Nat) : (if places.length ≤ 1 then none else
    some (places.drop 1)).getD [] = places.drop 1 := by
  split
  · rename_i single
    rw [Option.getD_none, List.drop_eq_nil_of_le single]
  · rfl

theorem gather_rest {places : List Nat} {first : Nat}
    (gathered : gather 0 (places.take 1) = (first, 0)) :
    gather first (places.drop 1) = gather 0 places := by
  rw [← gather_of_append gathered, List.take_append_drop]

/-- Digits with a power of ten are read as a number if they are a finite number once as many of
them are gathered as one integer holds. -/
theorem decimal_numeral_value
    (finite : ∃ magnitude, Binary64.decimalMagnitude? (gather 0 (digitsOf digits)).1
      (power + (gather 0 (digitsOf digits)).2) = some magnitude) :
    ∃ value, (decimalNumeral negative digits power).value? = some (.float value) := by
  have formed := is_digits_of digits
  have length := List.length_pos_iff.2 formed.nonempty
  unfold decimalNumeral
  dsimp only
  split
  · rename_i far
    have few : ((digitsOf digits).take 1).length ≤ 1 := List.length_take_le 1 _
    have small : ∀ digit ∈ (digitsOf digits).take 1, digit < 10 := fun digit member =>
      formed.small digit (List.mem_of_mem_take member)
    by_cases shrinks : ((digitsOf digits).length - 1 + power : Int) ≤ 0
    · apply Numeral.value_of_small (Or.inr rfl) small (few.trans (by decide))
      rwa [shift_of_exponent rfl]
    -- Only here are digits gathered across the point, in two turns instead of one.
    · have whole : (gather 0 ((digitsOf digits).take 1)).2 = 0 :=
        gather_few 0 (by decide) small (by omega)
      have gathered : gather 0 ((digitsOf digits).take 1) =
          ((gather 0 ((digitsOf digits).take 1)).1, 0) := Prod.ext rfl whole
      have left := gather_left_le (gather 0 ((digitsOf digits).take 1)).1 ((digitsOf digits).drop 1)
      rw [gather_rest gathered, List.length_drop] at left
      apply Numeral.value_of_decimal (Or.inr rfl) gathered
      dsimp only
      rw [rest_of_places, gather_rest gathered, shift_of_exponent rfl, List.length_drop]
      have amount : ((digitsOf digits).length - 1 + power -
          ((digitsOf digits).length - 1 - (gather 0 (digitsOf digits)).2 : Nat) : Int) =
            power + (gather 0 (digitsOf digits)).2 := by omega
      rw [amount]
      exact finite
  split
  · apply Numeral.value_of_small (Or.inl rfl)
    · exact (is_digits_zeros formed _).1.small
    · rw [List.length_append, List.length_replicate]
      simp at *
      omega
    · exact Int.le_refl 0
  split
  · apply Numeral.value_of_small (Or.inl rfl) (is_digits_take formed _).small
    · rw [List.length_take]
      simp at *
      omega
    · exact Int.le_refl 0
  · exact Numeral.value_of_small (Or.inl rfl) is_digits_zero.small (by simp) (Int.le_refl 0)

end Decimal

/-- The last three magnitudes are read as finite numbers, although what is written of them may be
greater than they are. -/
theorem last_magnitudes_read : ∀ offset ∈ [1, 2, 3],
    let (digits, power) := Binary64.shortest (Binary64.infinite - offset)
    (Binary64.decimalMagnitude? (gather 0 (digitsOf digits)).1
      (power + (gather 0 (digitsOf digits)).2)).isSome = true := by
  decide +kernel

theorem shortest_read {magnitude : Nat} (finite : magnitude < Binary64.infinite) :
    ∃ read, Binary64.decimalMagnitude? (gather 0 (digitsOf (Binary64.shortest magnitude).1)).1
      ((Binary64.shortest magnitude).2 +
        (gather 0 (digitsOf (Binary64.shortest magnitude).1)).2) = some read := by
  by_cases inside : magnitude + 3 < Binary64.infinite
  · have bound := (Binary64.shortest_le magnitude).trans (Binary64.half_above_le_safe inside)
    generalize Binary64.shortest magnitude = shortest at bound ⊢
    obtain ⟨digits, power⟩ := shortest
    have gathered := gather_le 0 (digitsOf digits)
    change _ ≤ natOfDigits (digitsOf digits) at gathered
    rw [nat_of_digits_of] at gathered
    apply Binary64.decimal_magnitude_of_le_safe (gather_lt (by decide) _)
    intro places same
    generalize gather 0 (digitsOf digits) = taken at gathered same ⊢
    obtain ⟨amount, left⟩ := taken
    have parts : (amount : ℚ) * 10 ^ places = amount * 10 ^ left * 10 ^ power := by
      rw [← zpow_natCast, ← same, zpow_add₀ (by norm_num), zpow_natCast]
      ring
    have below : (amount : ℚ) * 10 ^ left ≤ digits := by exact_mod_cast gathered
    have inside : (amount : ℚ) * 10 ^ places ≤ Binary64.safe := by
      rw [parts]
      refine (mul_le_mul_of_nonneg_right below ?_).trans bound
      positivity
    exact_mod_cast inside
  -- Half a unit above the last magnitudes is more than the safe bound, so these are computed.
  · have last : magnitude = Binary64.infinite - (Binary64.infinite - magnitude) := by omega
    have offset : Binary64.infinite - magnitude ∈ [1, 2, 3] := by
      simp
      omega
    have read := last_magnitudes_read _ offset
    rw [← last] at read
    exact Option.isSome_iff_exists.1 read

/-- A finite number is read from what is written of it. -/
theorem float_numeral_value {number : Binary64} (finite : number.magnitude < Binary64.infinite) :
    ∃ value, (floatNumeral number).value? = some (.float value) := by
  unfold floatNumeral
  split
  · apply decimal_numeral_value
    exact ⟨0, by decide⟩
  · exact decimal_numeral_value (shortest_read finite)

end BomEvidence.Json.Tree
