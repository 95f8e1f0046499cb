import BomEvidence.Proofs.Text.Joined

/-!
Texts from which a mark is removed wherever it stands. The text is passed from the left: a mark is
left out and every other character stays. What is left of a text is nothing exactly if the text is
the mark some number of times, and the pieces between other characters are passed each by itself.
-/

namespace BomEvidence.Text

def removed (mark text : List Char) : List Char := (splitChars mark text).flatten

theorem to_list_replace_empty (text mark : String) :
    (replace text mark "").toList = removed mark.toList text.toList := by
  have joined (pieces : List (List Char)) : List.intercalate [] pieces = pieces.flatten := by
    induction pieces with
    | nil => rfl
    | cons piece pieces ih =>
        cases pieces with
        | nil => simp
        | cons next pieces =>
            rw [List.intercalate_cons_cons, ih, List.append_nil, ← List.flatten_cons]
  rw [replace, String.toList_ofList]
  exact joined _

variable {mark : List Char}

theorem removed_nil (nonempty : mark ≠ []) : removed mark [] = [] := by
  rw [removed, split_chars_free nonempty]
  · rfl
  · rwa [List.infix_nil]

theorem removed_mark (nonempty : mark ≠ []) (rest : List Char) :
    removed mark (mark ++ rest) = removed mark rest := by
  rw [removed, split_chars_mark nonempty, List.flatten_cons, List.nil_append, removed]

theorem removed_other (nonempty : mark ≠ []) {c : Char} {text : List Char}
    (other : ¬mark <+: c :: text) : removed mark (c :: text) = c :: removed mark text := by
  obtain ⟨piece, pieces, same⟩ := List.exists_cons_of_ne_nil (split_chars_ne_nil mark text)
  rw [removed, removed, split_chars_other nonempty other, same]
  rfl

/-- A text is empty, or the mark stands in front of a shorter one, or another character does. -/
theorem removal_induction (nonempty : mark ≠ []) {motive : List Char → Prop} (nil : motive [])
    (marked : ∀ rest, motive rest → motive (mark ++ rest))
    (other : ∀ c text, ¬mark <+: c :: text → motive text → motive (c :: text))
    (text : List Char) : motive text := by
  induction length : text.length using Nat.strongRecOn generalizing text with
  | ind n ih =>
      cases text with
      | nil => exact nil
      | cons c text =>
          by_cases begins : mark <+: c :: text
          · obtain ⟨rest, same⟩ := begins
            have positive := List.length_pos_iff.2 nonempty
            have lengths := congrArg List.length same
            rw [List.length_append] at lengths
            rw [← same]
            exact marked rest (ih rest.length (by omega) rest rfl)
          · rw [List.length_cons] at length
            exact other c text begins (ih text.length (by omega) text rfl)

theorem removed_subset (nonempty : mark ≠ []) (text : List Char) : removed mark text ⊆ text := by
  induction text using removal_induction nonempty with
  | nil =>
      rw [removed_nil nonempty]
      exact List.Subset.refl []
  | marked rest ih =>
      rw [removed_mark nonempty]
      exact List.Subset.trans ih (List.subset_append_right mark rest)
  | other c text apart ih =>
      rw [removed_other nonempty apart]
      exact List.cons_subset_cons c ih

theorem not_prefix_of_absent {c : Char} (nonempty : mark ≠ []) (absent : c ∉ mark)
    (text : List Char) : ¬mark <+: c :: text := by
  intro begins
  rw [← List.nil_append (c :: text)] at begins
  exact nonempty (List.prefix_nil.1 (prefix_before absent begins))

theorem removed_at {c : Char} (nonempty : mark ≠ []) (absent : c ∉ mark) (front rest : List Char) :
    removed mark (front ++ c :: rest) = removed mark front ++ c :: removed mark rest := by
  induction front using removal_induction nonempty with
  | nil =>
      rw [removed_nil nonempty, List.nil_append, List.nil_append,
        removed_other nonempty (not_prefix_of_absent nonempty absent rest)]
  | marked front ih => rw [List.append_assoc, removed_mark nonempty, removed_mark nonempty, ih]
  | other d front apart ih =>
      have later : ¬mark <+: d :: (front ++ c :: rest) := by
        intro begins
        rw [← List.cons_append] at begins
        exact apart (prefix_before absent begins)
      rw [List.cons_append, removed_other nonempty later, removed_other nonempty apart, ih,
        List.cons_append]

theorem split_on_removed {c : Char} (nonempty : mark ≠ []) (absent : c ∉ mark) (text : List Char) :
    (removed mark text).splitOn c = (text.splitOn c).map (removed mark) := by
  induction length : text.length using Nat.strongRecOn generalizing text with
  | ind n ih =>
      by_cases member : c ∈ text
      · obtain ⟨front, rest, rfl, first⟩ := List.eq_append_cons_of_mem member
        rw [List.length_append, List.length_cons] at length
        have apart : c ∉ removed mark front :=
          fun left => first (removed_subset nonempty front left)
        rw [removed_at nonempty absent, List.splitOn_append_cons_self_of_not_mem apart,
          List.splitOn_append_cons_self_of_not_mem first, ih rest.length (by omega) rest rfl,
          List.map_cons]
      · have apart : c ∉ removed mark text := fun left => member (removed_subset nonempty text left)
        rw [List.splitOn_eq_singleton apart, List.splitOn_eq_singleton member, List.map_singleton]

theorem removed_behind {first : Char} {back front : List Char} (absent : first ∉ front)
    (rest : List Char) :
    removed (first :: back) (front ++ rest) = front ++ removed (first :: back) rest := by
  induction front with
  | nil => rfl
  | cons c front ih =>
      rw [List.mem_cons, not_or] at absent
      have other : ¬first :: back <+: c :: (front ++ rest) := by
        rw [List.cons_prefix_cons, not_and]
        intro same
        exact absurd same absent.1
      rw [List.cons_append, removed_other (List.cons_ne_nil first back) other, ih absent.2,
        List.cons_append]

theorem removed_eq_nil_iff (nonempty : mark ≠ []) {text : List Char} :
    removed mark text = [] ↔ ∃ count, text = (List.replicate count mark).flatten := by
  constructor
  · intro nothing
    induction text using removal_induction nonempty with
    | nil => exact ⟨0, rfl⟩
    | marked rest ih =>
        rw [removed_mark nonempty] at nothing
        obtain ⟨count, rfl⟩ := ih nothing
        exact ⟨count + 1, by rw [List.replicate_succ, List.flatten_cons]⟩
    | other c text apart ih =>
        rw [removed_other nonempty apart] at nothing
        cases nothing
  · rintro ⟨count, rfl⟩
    induction count with
    | zero => exact removed_nil nonempty
    | succ count ih => rw [List.replicate_succ, List.flatten_cons, removed_mark nonempty, ih]

end BomEvidence.Text
