import BomEvidence.Text.Search

/-!
The pieces between marks. A text is cut at the first place where the mark stands, and the rest of
the text in the same way. There is one such way to cut a text, and pieces that follow each other
are the pieces of what they are in the text together with the marks between them.
-/

namespace BomEvidence.Text

/-- Behind the piece is the first place where the mark stands. -/
def Clear (mark piece : List Char) : Prop :=
  ∀ before after, piece ++ mark = before ++ (mark ++ after) → after = []

/-- The pieces of a text between the marks, from the left on. -/
inductive CutsInto (mark : List Char) : List Char → List (List Char) → Prop where
  | whole {text : List Char} (free : ¬mark <:+: text) : CutsInto mark text [text]
  | cut {piece rest : List Char} {pieces : List (List Char)} (clear : Clear mark piece)
      (more : CutsInto mark rest pieces) :
      CutsInto mark (piece ++ (mark ++ rest)) (piece :: pieces)

variable {mark text : List Char}

theorem clear_nil (mark : List Char) : Clear mark [] := by
  intro before after same
  have lengths := congrArg List.length same
  simp only [List.nil_append, List.length_append] at lengths
  apply List.eq_nil_of_length_eq_zero
  omega

theorem Clear.tail {c : Char} {piece : List Char} (clear : Clear mark (c :: piece)) :
    Clear mark piece := by
  intro before after same
  apply clear (c :: before) after
  rw [List.cons_append, List.cons_append, same]

theorem Clear.not_prefix {c : Char} {piece : List Char} (clear : Clear mark (c :: piece))
    (rest : List Char) : ¬mark <+: (c :: piece) ++ (mark ++ rest) := by
  intro begins
  rw [← List.append_assoc] at begins
  have inside : mark <+: (c :: piece) ++ mark := by
    apply List.prefix_of_prefix_length_le begins (List.prefix_append _ rest)
    simp only [List.length_append, List.length_cons]
    omega
  rcases inside with ⟨after, same⟩
  have nothing : after = [] := clear [] after same.symm
  have lengths := congrArg List.length same
  rw [nothing] at lengths
  simp only [List.length_append, List.length_cons, List.length_nil] at lengths
  omega

theorem Clear.free {piece : List Char} (clear : Clear mark piece) (nonempty : mark ≠ []) :
    ¬mark <:+: piece := by
  rintro ⟨before, after, rfl⟩
  have nothing : after ++ mark = [] := by
    apply clear before
    simp only [List.append_assoc]
  exact nonempty (List.append_eq_nil_iff.1 nothing).2

/-! ### The pieces of a scan -/

theorem pieces_skip (mark : List Char) (skip : Nat) (text : List Char) :
    pieces mark skip text = pieces mark 0 (text.drop skip) := by
  induction text generalizing skip with
  | nil => cases skip <;> rfl
  | cons c text ih =>
      cases skip with
      | zero => rfl
      | succ skip =>
          rw [List.drop_succ_cons, ← ih skip]
          rfl

theorem split_chars_eq (nonempty : mark ≠ []) (text : List Char) :
    splitChars mark text = (pieces mark 0 text).1 :: (pieces mark 0 text).2 := by
  rw [splitChars, if_neg]
  rw [List.isEmpty_iff]
  exact nonempty

theorem split_chars_mark (nonempty : mark ≠ []) (rest : List Char) :
    splitChars mark (mark ++ rest) = [] :: splitChars mark rest := by
  rw [split_chars_eq nonempty, split_chars_eq nonempty]
  cases mark with
  | nil => exact absurd rfl nonempty
  | cons m mark =>
      have begins : (m :: mark).isPrefixOf ((m :: mark) ++ rest) = true :=
        List.isPrefixOf_iff_prefix.2 (List.prefix_append _ _)
      have behind : (mark ++ rest).drop ((m :: mark).length - 1) = rest := by simp
      rw [List.cons_append] at begins ⊢
      rw [pieces, if_pos begins, pieces_skip, behind]

theorem split_chars_other (nonempty : mark ≠ []) {c : Char} (other : ¬mark <+: c :: text) :
    splitChars mark (c :: text) = (splitChars mark text).modifyHead (c :: ·) := by
  have apart : ¬mark.isPrefixOf (c :: text) = true := by
    rw [List.isPrefixOf_iff_prefix]
    exact other
  rw [split_chars_eq nonempty, split_chars_eq nonempty, pieces, if_neg apart]
  rfl

theorem split_chars_free (nonempty : mark ≠ []) (free : ¬mark <:+: text) :
    splitChars mark text = [text] := by
  induction text with
  | nil => rw [split_chars_eq nonempty, pieces]
  | cons c text ih =>
      rw [List.infix_cons_iff, not_or] at free
      rw [split_chars_other nonempty free.1, ih free.2, List.modifyHead_cons]

theorem split_chars_cut (nonempty : mark ≠ []) {piece : List Char} (clear : Clear mark piece)
    (rest : List Char) :
    splitChars mark (piece ++ (mark ++ rest)) = piece :: splitChars mark rest := by
  induction piece with
  | nil => exact split_chars_mark nonempty rest
  | cons c piece ih =>
      have other := clear.not_prefix rest
      rw [List.cons_append] at other ⊢
      rw [split_chars_other nonempty other, ih clear.tail, List.modifyHead_cons]

/-! ### The one way to cut a text -/

theorem CutsInto.eq_split (nonempty : mark ≠ []) {pieces : List (List Char)}
    (cuts : CutsInto mark text pieces) : splitChars mark text = pieces := by
  induction cuts with
  | whole free => exact split_chars_free nonempty free
  | cut clear _ ih => rw [split_chars_cut nonempty clear, ih]

theorem CutsInto.cons {c : Char} {pieces : List (List Char)} (cuts : CutsInto mark text pieces)
    (other : ¬mark <+: c :: text) : ∃ pieces, CutsInto mark (c :: text) pieces := by
  cases cuts with
  | whole free =>
      refine ⟨_, .whole ?_⟩
      rw [List.infix_cons_iff, not_or]
      exact ⟨other, free⟩
  | @cut piece rest pieces clear more =>
      have longer : Clear mark (c :: piece) := by
        intro before after same
        cases before with
        | nil =>
            apply absurd _ other
            rw [← List.append_assoc, ← List.cons_append, ← List.cons_append, same]
            rw [List.nil_append, List.append_assoc]
            exact List.prefix_append mark _
        | cons b before =>
            rw [List.cons_append, List.cons_append] at same
            exact clear before after (List.cons.inj same).2
      exact ⟨_, .cut longer more⟩

theorem exists_cut (nonempty : mark ≠ []) (text : List Char) :
    ∃ pieces, CutsInto mark text pieces := by
  induction length : text.length using Nat.strongRecOn generalizing text with
  | ind n ih =>
      cases text with
      | nil =>
          refine ⟨_, .whole ?_⟩
          rw [List.infix_nil]
          exact nonempty
      | cons c text =>
          by_cases begins : mark <+: c :: text
          · rcases begins with ⟨rest, same⟩
            have shorter : rest.length < n := by
              have positive := List.length_pos_iff.2 nonempty
              rw [← length, ← same, List.length_append]
              omega
            rcases ih rest.length shorter rest rfl with ⟨pieces, cuts⟩
            rw [← same]
            exact ⟨_, .cut (clear_nil mark) cuts⟩
          · have shorter : text.length < n := by
              rw [← length, List.length_cons]
              omega
            rcases ih text.length shorter text rfl with ⟨pieces, cuts⟩
            exact cuts.cons begins

theorem cuts_into_iff (nonempty : mark ≠ []) {pieces : List (List Char)} :
    CutsInto mark text pieces ↔ splitChars mark text = pieces := by
  constructor
  · exact CutsInto.eq_split nonempty
  · rintro rfl
    rcases exists_cut nonempty text with ⟨pieces, cuts⟩
    rw [cuts.eq_split nonempty]
    exact cuts

/-- Pieces that follow each other are the pieces of what they are together. -/
theorem CutsInto.group (nonempty : mark ≠ []) {pieces group : List (List Char)}
    (cuts : CutsInto mark text pieces) (within : group <:+: pieces) (some : group ≠ []) :
    CutsInto mark (mark.intercalate group) group := by
  induction cuts generalizing group with
  | whole free =>
      rcases List.infix_cons_iff.1 within with begins | nothing
      · rcases List.exists_cons_of_ne_nil some with ⟨piece, others, rfl⟩
        rcases List.cons_prefix_cons.1 begins with ⟨rfl, rest⟩
        rw [List.prefix_nil.1 rest, List.intercalate_singleton]
        exact .whole free
      · exact absurd (List.infix_nil.1 nothing) some
  | cut clear _ ih =>
      rcases List.infix_cons_iff.1 within with begins | later
      · rcases List.exists_cons_of_ne_nil some with ⟨piece, others, rfl⟩
        rcases List.cons_prefix_cons.1 begins with ⟨rfl, rest⟩
        cases others with
        | nil =>
            rw [List.intercalate_singleton]
            exact .whole (clear.free nonempty)
        | cons next others =>
            rw [List.intercalate_cons_cons, List.append_assoc]
            exact .cut clear (ih rest.isInfix (List.cons_ne_nil _ _))
      · exact ih later some

end BomEvidence.Text
