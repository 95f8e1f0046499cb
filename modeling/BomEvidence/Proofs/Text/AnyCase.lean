import BomEvidence.Proofs.Text.Spanning
import BomEvidence.Text.Case

/-!
Words in any letter case. The lower-case mapping is that of Unicode, which maps letters outside of
ASCII as well, and a few of them to letters of ASCII. A word without such letters stands in a text
that is mapped exactly if it stands in the text up to the case of ASCII letters.
-/

namespace BomEvidence.Text

/-- Only letters of ASCII have this small letter: it is neither the letter that the dotted capital
I is mapped to nor within what is reached by a run that goes beyond ASCII. -/
def OnlyAscii (letter : Char) : Prop :=
  letter ≠ 'i' ∧ 0 < letter.toNat ∧ letter.toNat < 0x80 ∧ caseRuns.all (fun run =>
    run.last < 0x80 || (letter.toNat : Int) < run.first + run.shift ||
      run.last + run.shift < letter.toNat) = true

instance (letter : Char) : Decidable (OnlyAscii letter) :=
  inferInstanceAs (Decidable (_ ∧ _ ∧ _ ∧ caseRuns.all _ = true))

/-- The word is in a text, in small letters, in capitals or in a mix of both. -/
def InAnyCase (word text : List Char) : Prop :=
  ∃ found, found <:+: text ∧ found.map Char.toLower = word

theorem in_any_case_iff {word text : List Char} :
    InAnyCase word text ↔ word <:+: text.map Char.toLower := by
  rw [List.infix_map_iff]
  apply exists_congr
  intro found
  rw [eq_comm]

instance (word text : List Char) : Decidable (InAnyCase word text) :=
  decidable_of_iff (occurs word (text.map Char.toLower) = true)
    (Iff.trans occurs_iff_infix in_any_case_iff.symm)

/-! ### Characters -/

theorem code_of_nat {code : Nat} (positive : 0 < (Char.ofNat code).toNat) :
    (Char.ofNat code).toNat = code := by
  by_cases valid : code.isValidChar
  · rw [Char.ofNat, dif_pos valid]
    rfl
  · rw [Char.ofNat, dif_neg valid] at positive
    exact absurd positive (by decide)

theorem not_mem_lower_char {letter c : Char} (only : OnlyAscii letter) (far : 0x80 ≤ c.toNat) :
    letter ∉ lowerChar c := by
  obtain ⟨notDotted, positive, ascii, apart⟩ := only
  intro member
  unfold lowerChar at member
  split at member
  · rcases List.mem_cons.1 member with same | member
    · exact notDotted same
    · rw [List.mem_singleton.1 member] at ascii
      exact absurd ascii (by decide)
  · have small := List.mem_singleton.1 member
    rw [smallLetter, if_neg (by omega)] at small
    cases found : caseRuns.find? (·.holds c.toNat) with
    | none =>
        simp only [found] at small
        rw [small] at ascii
        omega
    | some run =>
        simp only [found] at small
        have code := code_of_nat (small ▸ positive)
        rw [← small] at code
        have holds := List.find?_some found
        simp only [CaseRun.holds, Bool.and_eq_true, decide_eq_true_eq] at holds
        have outside := List.all_eq_true.1 apart run (List.mem_of_find?_eq_some found)
        simp only [Bool.or_eq_true, decide_eq_true_eq] at outside
        omega

theorem to_lower_of_far {c : Char} (far : 0x80 ≤ c.toNat) : c.toLower = c := by
  unfold Char.toLower
  rw [dif_neg]
  intro capital
  have below : c.val.toNat ≤ 'Z'.val.toNat := UInt32.le_iff_toNat_le.1 capital.2
  have bound : 'Z'.val.toNat = 90 := rfl
  have same : c.val.toNat = c.toNat := rfl
  omega

theorem lower_char_of_ascii {c : Char} (ascii : c.toNat < 0x80) : lowerChar c = [c.toLower] := by
  rw [lowerChar, if_neg (by omega), smallLetter, if_pos ascii]

theorem lower_char_ne_nil (c : Char) : lowerChar c ≠ [] := by
  unfold lowerChar
  split
  · exact List.cons_ne_nil _ _
  · exact List.cons_ne_nil _ _

/-! ### Texts -/

theorem prefix_lower_iff {word text : List Char} (only : ∀ letter ∈ word, OnlyAscii letter) :
    word <+: lowerChars text ↔ word <+: text.map Char.toLower := by
  induction text generalizing word with
  | nil => rfl
  | cons c text ih =>
      cases word with
      | nil => simp
      | cons letter word =>
          rw [lowerChars, List.flatMap_cons, List.map_cons]
          by_cases ascii : c.toNat < 0x80
          · rw [lower_char_of_ascii ascii, List.singleton_append, List.cons_prefix_cons,
              List.cons_prefix_cons]
            exact and_congr_right fun _ =>
              ih fun other member => only other (List.mem_cons_of_mem _ member)
          · have far : 0x80 ≤ c.toNat := Nat.le_of_not_lt ascii
            have first := only letter List.mem_cons_self
            apply iff_of_false
            · intro begins
              obtain ⟨small, others, block⟩ := List.exists_cons_of_ne_nil (lower_char_ne_nil c)
              rw [block, List.cons_append] at begins
              apply not_mem_lower_char first far
              rw [block, (List.cons_prefix_cons.1 begins).1]
              exact List.mem_cons_self
            · intro begins
              have same := (List.cons_prefix_cons.1 begins).1
              rw [to_lower_of_far far] at same
              rw [same] at first
              exact ascii first.2.2.1

/-- A word of letters that only ASCII has is in the lower-case mapping of a text exactly if it is
in the text in any case. -/
theorem infix_lower_iff {word text : List Char} (nonempty : word ≠ [])
    (only : ∀ letter ∈ word, OnlyAscii letter) :
    word <:+: lowerChars text ↔ InAnyCase word text := by
  rw [in_any_case_iff]
  induction text with
  | nil => rfl
  | cons c text ih =>
      by_cases ascii : c.toNat < 0x80
      · have begins : word <+: lowerChars (c :: text) ↔ word <+: (c :: text).map Char.toLower :=
          prefix_lower_iff only
        rw [lowerChars, List.flatMap_cons, lower_char_of_ascii ascii, List.singleton_append,
          List.map_cons] at begins ⊢
        rw [List.infix_cons_iff, List.infix_cons_iff, begins]
        exact or_congr_right ih
      · have far : 0x80 ≤ c.toNat := Nat.le_of_not_lt ascii
        have behindSmall : word <:+: lowerChar c ++ lowerChars text ↔ word <:+: lowerChars text :=
          infix_behind_iff nonempty fun small member inWord =>
            not_mem_lower_char (only small inWord) far member
        have behindOwn : word <:+: [c] ++ text.map Char.toLower ↔ word <:+: text.map Char.toLower :=
          infix_behind_iff nonempty fun own member inWord => by
            rw [List.mem_singleton.1 member] at inWord
            exact ascii (only c inWord).2.2.1
        rw [lowerChars, List.flatMap_cons, List.map_cons, to_lower_of_far far]
        exact behindSmall.trans (ih.trans behindOwn.symm)

end BomEvidence.Text
