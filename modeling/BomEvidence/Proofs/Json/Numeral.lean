import BomEvidence.Json.Tree

/-!
Numerals are read as they are written. The digits before the point, those after it and those of
the exponent are each read as far as they go, since none of them is followed by another digit. An
integer is written as its digits, and the number that is gathered from them never passes it.
-/

namespace BomEvidence.Json.Tree

/-! ### Digits -/

/-- What follows a number that is not part of it. -/
def Ends (rest : List Char) : Prop :=
  ∀ c, rest.head? = some c → c.isDigit = false ∧ c ≠ '.' ∧ c ≠ 'e' ∧ c ≠ 'E'

theorem ends_nil : Ends [] := by
  intro c first
  cases first

theorem ends_comma (rest : List Char) : Ends (',' :: rest) := by
  intro c first
  cases first
  decide

theorem ends_line_feed (rest : List Char) : Ends ('\n' :: rest) := by
  intro c first
  cases first
  decide

def Stops (rest : List Char) : Prop := ∀ c, rest.head? = some c → c.isDigit = false

theorem stops_of_cons {first : Char} (noDigit : first.isDigit = false) (rest : List Char) :
    Stops (first :: rest) := by
  intro c same
  cases same
  exact noDigit

theorem stops_of_ends {rest : List Char} (ends : Ends rest) : Stops rest :=
  fun c first => (ends c first).1

/-- The digits of a number, the greatest one first. -/
def digitsOf (value : Nat) : List Nat := (Nat.toDigits 10 value).map fun c => c.toNat - '0'.toNat

theorem digits_of_lt {value : Nat} (small : value < 10) : digitsOf value = [value] := by
  rw [digitsOf, Nat.toDigits_of_lt_base small, List.map_singleton]
  exact congrArg (fun digit => [digit]) (Nat.toNat_digitChar_sub_48_of_lt_ten small)

theorem digits_of_le {value : Nat} (large : 10 ≤ value) :
    digitsOf value = digitsOf (value / 10) ++ [value % 10] := by
  have last : value % 10 < 10 := Nat.mod_lt value (by decide)
  rw [digitsOf, Nat.toDigits_of_base_le (by decide) large, List.map_append, List.map_singleton]
  exact congrArg (fun digit => digitsOf (value / 10) ++ [digit])
    (Nat.toNat_digitChar_sub_48_of_lt_ten last)

theorem digits_of_ne_nil (value : Nat) : digitsOf value ≠ [] := by
  simp [digitsOf]

theorem digits_of_head {value : Nat} (positive : 0 < value) : (digitsOf value).head? ≠ some 0 := by
  induction value using Nat.strongRecOn with
  | _ value ih =>
      by_cases small : value < 10
      · rw [digits_of_lt small, List.head?_cons]
        intro isZero
        have zero : value = 0 := Option.some.inj isZero
        omega
      · obtain ⟨head, rest, digits⟩ := List.exists_cons_of_ne_nil (digits_of_ne_nil (value / 10))
        have before := ih (value / 10) (by omega) (by omega)
        rw [digits, List.head?_cons] at before
        rw [digits_of_le (Nat.le_of_not_lt small), digits, List.cons_append, List.head?_cons]
        exact before

structure IsDigits (places : List Nat) : Prop where
  nonempty : places ≠ []
  small : ∀ digit ∈ places, digit < 10

def shownDigits (places : List Nat) : List Char := places.map Nat.digitChar

theorem digit_char_is_digit : ∀ digit < 10, (Nat.digitChar digit).isDigit = true := by decide

theorem digits_of_shown {places : List Nat} (small : ∀ digit ∈ places, digit < 10)
    {rest : List Char} (stops : Stops rest) :
    digits (shownDigits places ++ rest) = (places, rest) := by
  induction places with
  | nil =>
      cases rest with
      | nil => rfl
      | cons c rest => simp [digits, shownDigits, stops c rfl]
  | cons digit places ih =>
      obtain ⟨first, others⟩ := List.forall_mem_cons.1 small
      have isDigit := digit_char_is_digit digit first
      have value : (Nat.digitChar digit).toNat - '0'.toNat = digit :=
        Nat.toNat_digitChar_sub_48_of_lt_ten first
      obtain ⟨shown, left⟩ := Prod.mk.inj (ih others)
      unfold digits
      rw [shownDigits, List.map_cons, List.cons_append, List.takeWhile_cons, List.dropWhile_cons,
        if_pos isDigit, if_pos isDigit, List.map_cons, value]
      exact Prod.ext (congrArg (List.cons digit) shown) left

theorem is_digits_of (value : Nat) : IsDigits (digitsOf value) := by
  refine ⟨digits_of_ne_nil value, ?_⟩
  induction value using Nat.strongRecOn with
  | _ value ih =>
      intro digit member
      by_cases small : value < 10
      · rw [digits_of_lt small, List.mem_singleton] at member
        omega
      · rw [digits_of_le (Nat.le_of_not_lt small)] at member
        rcases List.mem_append.1 member with before | last
        · exact ih (value / 10) (by omega) digit before
        · rw [List.mem_singleton.1 last]
          omega

theorem shown_digits_of (value : Nat) : shownDigits (digitsOf value) = Nat.toDigits 10 value := by
  induction value using Nat.strongRecOn with
  | _ value ih =>
      by_cases small : value < 10
      · rw [digits_of_lt small, Nat.toDigits_of_lt_base small]
        rfl
      · have large := Nat.le_of_not_lt small
        have before : shownDigits (digitsOf (value / 10)) = Nat.toDigits 10 (value / 10) :=
          ih (value / 10) (by omega)
        rw [digits_of_le large, Nat.toDigits_of_base_le (by decide) large, ← before]
        exact List.map_append

theorem gather_of_append {start amount : Nat} {places : List Nat}
    (gathered : gather start places = (amount, 0)) (rest : List Nat) :
    gather start (places ++ rest) = gather amount rest := by
  induction places generalizing start with
  | nil =>
      cases gathered
      rfl
  | cons digit others ih =>
      rw [gather] at gathered
      rw [List.cons_append, gather]
      split at gathered
      · rename_i fits
        rw [if_pos fits]
        exact ih gathered
      · cases gathered

theorem gather_digits_of {value : Nat} (below : value < wordLimit) :
    gather 0 (digitsOf value) = (value, 0) := by
  induction value using Nat.strongRecOn with
  | _ value ih =>
      by_cases small : value < 10
      · rw [digits_of_lt small]
        simp [gather, below]
      · have parts : value / 10 * 10 + value % 10 = value := by omega
        have before : value / 10 < wordLimit := by omega
        rw [digits_of_le (Nat.le_of_not_lt small),
          gather_of_append (ih (value / 10) (by omega) before), gather, parts, if_pos below, gather]

/-! ### Numerals -/

theorem no_fraction {rest : List Char} (ends : Ends rest) : fraction? rest = some (none, rest) := by
  unfold fraction?
  split
  · exact absurd rfl (ends '.' rfl).2.1
  · rfl

theorem no_exponent {rest : List Char} (ends : Ends rest) : exponent? rest = some (none, rest) := by
  cases rest with
  | nil => rfl
  | cons c rest =>
      obtain ⟨_, _, noSmall, noCapital⟩ := ends c rfl
      simp [exponent?, noSmall, noCapital]

namespace Numeral

def shownSign (negative : Bool) : List Char := if negative then ['-'] else []

def shownFraction : Option (List Nat) → List Char
  | none => []
  | some places => '.' :: shownDigits places

/-- The characters of an exponent, which has a sign in any case. -/
def shownExponent : Option (Bool × List Nat) → List Char
  | none => []
  | some (negative, places) => 'e' :: (if negative then '-' else '+') :: shownDigits places

def shown (numeral : Numeral) : List Char :=
  shownSign numeral.negative ++ (shownDigits numeral.whole ++
    (shownFraction numeral.fraction ++ shownExponent numeral.exponent))

/-- There are digits wherever digits have to be, and a zero stands alone before the point. -/
structure WellFormed (numeral : Numeral) : Prop where
  whole : IsDigits numeral.whole
  alone : numeral.whole.head? = some 0 → numeral.whole.length = 1
  fraction : ∀ places, numeral.fraction = some places → IsDigits places
  exponent : ∀ exponent, numeral.exponent = some exponent → IsDigits exponent.2

theorem stops_exponent (exponent : Option (Bool × List Nat)) {rest : List Char} (ends : Ends rest) :
    Stops (shownExponent exponent ++ rest) := by
  cases exponent with
  | none => exact stops_of_ends ends
  | some exponent => exact stops_of_cons (by decide) _

theorem stops_fraction (fraction : Option (List Nat)) {rest : List Char} (stops : Stops rest) :
    Stops (shownFraction fraction ++ rest) := by
  cases fraction with
  | none => exact stops
  | some places => exact stops_of_cons (by decide) _

theorem exponent_of_shown {exponent : Option (Bool × List Nat)}
    (formed : ∀ shown, exponent = some shown → IsDigits shown.2) {rest : List Char}
    (ends : Ends rest) : exponent? (shownExponent exponent ++ rest) = some (exponent, rest) := by
  cases exponent with
  | none => exact no_exponent ends
  | some shown =>
      obtain ⟨nonempty, small⟩ := formed shown rfl
      have read := digits_of_shown small (stops_of_ends ends)
      obtain ⟨negative, places⟩ := shown
      cases negative <;> simp [shownExponent, exponent?, read, nonempty]

theorem fraction_of_shown {fraction : Option (List Nat)}
    (formed : ∀ places, fraction = some places → IsDigits places)
    (exponent : Option (Bool × List Nat)) {rest : List Char} (ends : Ends rest) :
    fraction? (shownFraction fraction ++ (shownExponent exponent ++ rest)) =
      some (fraction, shownExponent exponent ++ rest) := by
  cases fraction with
  | none =>
      cases exponent with
      | none => exact no_fraction ends
      | some shown => rfl
  | some places =>
      obtain ⟨nonempty, small⟩ := formed places rfl
      have read := digits_of_shown small (stops_exponent exponent ends)
      simp [shownFraction, fraction?, read, nonempty]

theorem whole_accepted {numeral : Numeral} (formed : numeral.WellFormed) :
    (numeral.whole.isEmpty ||
      (numeral.whole.head? = some 0 && 1 < numeral.whole.length)) = false := by
  have nonempty : numeral.whole.isEmpty = false := List.isEmpty_eq_false_iff.2 formed.whole.nonempty
  by_cases zero : numeral.whole.head? = some 0
  · simp [nonempty, formed.alone zero]
  · simp [nonempty, zero]

theorem shown_first {numeral : Numeral} (formed : numeral.WellFormed) :
    ∃ first rest, numeral.shown = first :: rest ∧ (first = '-' ∨ first.isDigit = true) := by
  obtain ⟨digit, places, whole⟩ := List.exists_cons_of_ne_nil formed.whole.nonempty
  have isDigit : (Nat.digitChar digit).isDigit = true := by
    apply digit_char_is_digit
    apply formed.whole.small
    simp [whole]
  unfold shown shownSign
  rw [whole]
  cases numeral.negative with
  | true => exact ⟨'-', _, rfl, Or.inl rfl⟩
  | false => exact ⟨Nat.digitChar digit, _, rfl, Or.inr isDigit⟩

def unsigned? (negative : Bool) (input : List Char) : Option (Numeral × List Char) := do
  let (whole, rest) := digits input
  if whole.isEmpty || (whole.head? = some 0 && 1 < whole.length) then none
  else
    let (fraction, rest) ← fraction? rest
    let (exponent, rest) ← exponent? rest
    some (⟨negative, whole, fraction, exponent⟩, rest)

theorem numeral_after_minus (input : List Char) : numeral? ('-' :: input) = unsigned? true input :=
  rfl

theorem numeral_without_minus {first : Char} (isDigit : first.isDigit = true)
    (input : List Char) : numeral? (first :: input) = unsigned? false (first :: input) := by
  unfold numeral? unsigned?
  split
  rename_i parts
  split at parts
  · rename_i minus
    rw [(List.cons.inj minus).1] at isDigit
    cases isDigit
  · cases parts
    rfl

theorem numeral_after_sign {places : List Nat} (formed : IsDigits places) (negative : Bool) (rest : List Char) :
    numeral? (shownSign negative ++ (shownDigits places ++ rest)) =
      unsigned? negative (shownDigits places ++ rest) := by
  cases negative with
  | true => exact numeral_after_minus _
  | false =>
      obtain ⟨digit, others, rfl⟩ := List.exists_cons_of_ne_nil formed.nonempty
      apply numeral_without_minus
      exact digit_char_is_digit digit (formed.small digit List.mem_cons_self)

/-- A numeral is read from its characters. -/
theorem numeral_of_shown {numeral : Numeral} (formed : numeral.WellFormed) {rest : List Char}
    (ends : Ends rest) : numeral? (numeral.shown ++ rest) = some (numeral, rest) := by
  let tail := shownFraction numeral.fraction ++ (shownExponent numeral.exponent ++ rest)
  have shape : numeral.shown ++ rest =
      shownSign numeral.negative ++ (shownDigits numeral.whole ++ tail) := by
    simp only [shown, tail, List.append_assoc]
  have whole : digits (shownDigits numeral.whole ++ tail) = (numeral.whole, tail) := by
    apply digits_of_shown formed.whole.small
    exact stops_fraction numeral.fraction (stops_exponent numeral.exponent ends)
  have fraction : fraction? tail = some (numeral.fraction, shownExponent numeral.exponent ++ rest) :=
    fraction_of_shown formed.fraction numeral.exponent ends
  have exponent := exponent_of_shown formed.exponent ends
  rw [shape, numeral_after_sign formed.whole]
  unfold unsigned?
  rw [whole]
  dsimp only
  rw [whole_accepted formed, fraction]
  simp [exponent]

/-! ### Integers -/

def ofInteger (value : Int) : Numeral := ⟨value < 0, digitsOf value.natAbs, none, none⟩

theorem integer_formed (value : Int) : (ofInteger value).WellFormed := by
  refine ⟨is_digits_of _, ?_, nofun, nofun⟩
  intro zero
  rcases Nat.eq_zero_or_pos value.natAbs with none | positive
  · rw [ofInteger, none]
    rfl
  · exact absurd zero (digits_of_head positive)

theorem integer_shown (value : Int) : value.repr.toList = (ofInteger value).shown := by
  rw [Int.repr_eq_if]
  split
  · rename_i natural
    have amount : value.toNat = value.natAbs := by omega
    simp [ofInteger, shown, shownSign, shownFraction, shownExponent, shown_digits_of, amount,
      Int.not_lt.2 natural]
  · rename_i negative
    have amount : (-value).toNat = value.natAbs := by omega
    simp [ofInteger, shown, shownSign, shownFraction, shownExponent, shown_digits_of, amount,
      Int.not_le.1 negative]

theorem integer_value {value : Int} (least : -0x8000000000000000 ≤ value)
    (greatest : value < 0x10000000000000000) : (ofInteger value).value? = some (.integer value) := by
  have below : value.natAbs < wordLimit := by
    change value.natAbs < 0x10000000000000000
    omega
  unfold ofInteger value?
  rw [gather_digits_of below]
  by_cases negative : value < 0
  · have amount : -(value.natAbs : Int) = value := by omega
    have kept : ¬(value.natAbs = 0 ∨ 0x8000000000000000 < value.natAbs) := by omega
    simp only [negative, amount, ← Bool.decide_or, kept, decide_true, decide_false, ne_eq,
      not_true_eq_false, Bool.not_true, Bool.false_eq_true, if_false]
  · have amount : (value.natAbs : Int) = value := by omega
    simp [negative, amount]

end Numeral

end BomEvidence.Json.Tree
