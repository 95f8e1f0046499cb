import BomEvidence.Json.Tree

/-!
Texts are read from what is written of them, character by character, each from its escaped form.
-/

namespace BomEvidence

namespace Json

namespace Tree

theorem hex_unit_of_control : ∀ unit < 0x20,
    hexUnit? '0' '0' (hexDigit (unit / 16)) (hexDigit unit) = some unit := by
  decide

theorem quoted_letter {letter c : Char} (named : escaped? letter = some c) (done rest : List Char) :
    quoted ⟨some done, none⟩ ('\\' :: letter :: rest) = quoted ⟨some (c :: done), none⟩ rest := by
  have noUnit : letter ≠ 'u' := by
    intro same
    subst same
    cases named
  rw [quoted.eq_def]
  split
  case h_1 absent => cases absent
  case h_2 same => cases same
  case h_3 same => exact absurd (List.cons.inj (List.cons.inj same).2).1 noUnit
  case h_4 same =>
    cases same
    rw [named]
    rfl
  case h_5 other same =>
    obtain ⟨first, second⟩ := List.cons.inj same
    exact (other letter rest first.symm second.symm).elim

theorem quoted_control {c : Char} (isControl : c.toNat < 0x20) (done rest : List Char) :
    quoted ⟨some done, none⟩
        (['\\', 'u', '0', '0', hexDigit (c.toNat / 16), hexDigit c.toNat] ++ rest) =
      quoted ⟨some (c :: done), none⟩ rest := by
  have unit := hex_unit_of_control c.toNat isControl
  have noHigh : isHighSurrogate c.toNat = false := by
    simp [isHighSurrogate]
    omega
  have noLow : isLowSurrogate c.toNat = false := by
    simp [isLowSurrogate]
    omega
  simp [quoted, unit, Reading.pushUnit, Reading.push, noHigh, noLow]

theorem quoted_shown {c : Char} (noQuote : c ≠ '"') (noBackslash : c ≠ '\\')
    (noControl : ¬c.toNat < 0x20) (done rest : List Char) :
    quoted ⟨some done, none⟩ ([c] ++ rest) = quoted ⟨some (c :: done), none⟩ rest := by
  rw [List.singleton_append, quoted.eq_def]
  split
  case h_1 absent => cases absent
  case h_2 same => exact absurd (List.cons.inj same).1 noQuote
  case h_3 same => exact absurd (List.cons.inj same).1 noBackslash
  case h_4 same => exact absurd (List.cons.inj same).1 noBackslash
  case h_5 same =>
    obtain ⟨rfl, rfl⟩ := List.cons.inj same
    rw [if_neg noControl]
    rfl

theorem quoted_escape (c : Char) (done rest : List Char) :
    quoted ⟨some done, none⟩ (escape c ++ rest) = quoted ⟨some (c :: done), none⟩ rest := by
  have coded : ∀ {code : Nat}, c.toNat = code → c = Char.ofNat code := by
    intro code same
    rw [← same, Char.ofNat_toNat]
  unfold escape
  split
  · rename_i isQuote
    subst isQuote
    exact quoted_letter rfl done rest
  split
  · rename_i isBackslash
    subst isBackslash
    exact quoted_letter rfl done rest
  split
  · rename_i isBackspace
    rw [coded isBackspace]
    exact quoted_letter rfl done rest
  split
  · rename_i isTab
    subst isTab
    exact quoted_letter rfl done rest
  split
  · rename_i isLineFeed
    subst isLineFeed
    exact quoted_letter rfl done rest
  split
  · rename_i isFormFeed
    rw [coded isFormFeed]
    exact quoted_letter rfl done rest
  split
  · rename_i isReturn
    subst isReturn
    exact quoted_letter rfl done rest
  split
  · rename_i isControl
    exact quoted_control isControl done rest
  · rename_i noQuote noBackslash _ _ _ _ _ noControl
    exact quoted_shown noQuote noBackslash noControl done rest

theorem quoted_escapes (text done rest : List Char) :
    quoted ⟨some done, none⟩ (text.flatMap escape ++ '"' :: rest) =
      some (some (String.ofList (done.reverse ++ text)), rest) := by
  induction text generalizing done with
  | nil => simp [quoted, Reading.text?]
  | cons c text ih =>
      rw [List.flatMap_cons, List.append_assoc, quoted_escape, ih]
      simp

/-- A text is read from what is written of it. -/
theorem quoted_text_of_quote (text : String) (rest : List Char) :
    ∃ body, (quote text).toList = '"' :: body ∧
      quotedText? (body ++ rest) = some (some text, rest) := by
  refine ⟨text.toList.flatMap escape ++ ['"'], ?_, ?_⟩
  · rw [quote, String.toList_ofList]
  · rw [quotedText?, List.append_assoc, List.singleton_append, quoted_escapes]
    simp

end Tree

end Json

end BomEvidence
