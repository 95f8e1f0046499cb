import BomEvidence.Text.Search

/-!
Where a needle stands in texts that are joined. Without a mark between them it stands inside of one
of them, or across several, from the end of one over all that lie between to the start of a later
one. A mark that it does not have keeps it on one side.
-/

namespace BomEvidence.Text

theorem occurs_iff_infix {needle text : List Char} :
    occurs needle text = true ↔ needle <:+: text := by
  rw [occurs_iff]
  exact exists_congr fun before => exists_congr fun after => eq_comm

/-- A needle begins at the end of a text and ends at the start of a later one. -/
def Spans (needle : List Char) (texts : List (List Char)) : Prop :=
  ∃ before first between last after, texts = before ++ first :: (between ++ last :: after) ∧
    ∃ head tail, head ≠ [] ∧ tail ≠ [] ∧ head <:+ first ∧ tail <+: last ∧
      needle = head ++ between.flatten ++ tail

theorem prefix_flatten_iff {start : List Char} {texts : List (List Char)} (nonempty : start ≠ []) :
    start <+: texts.flatten ↔ ∃ between last after tail, texts = between ++ last :: after ∧
      tail ≠ [] ∧ tail <+: last ∧ start = between.flatten ++ tail := by
  constructor
  · intro begins
    induction texts generalizing start with
    | nil => exact absurd (List.prefix_nil.1 begins) nonempty
    | cons text rest ih =>
        obtain ⟨later, same⟩ := begins
        rw [List.flatten_cons] at same
        rcases List.append_eq_append_iff.1 same with ⟨left, inside, _⟩ | ⟨excess, beyond, others⟩
        · exact ⟨[], text, rest, start, rfl, nonempty, ⟨left, inside.symm⟩, rfl⟩
        · cases excess with
          | nil =>
              rw [List.append_nil] at beyond
              exact ⟨[], text, rest, start, rfl, nonempty, ⟨[], by rw [beyond, List.append_nil]⟩,
                rfl⟩
          | cons c excess =>
              obtain ⟨between, last, after, tail, split, tailNonempty, ends, joined⟩ :=
                ih (List.cons_ne_nil c excess) ⟨later, others.symm⟩
              refine ⟨text :: between, last, after, tail, ?_, tailNonempty, ends, ?_⟩
              · rw [split, List.cons_append]
              · rw [beyond, joined, List.flatten_cons, List.append_assoc]
  · intro fact
    rcases fact with ⟨between, last, after, tail, rfl, _, ⟨left, rfl⟩, rfl⟩
    refine ⟨left ++ after.flatten, ?_⟩
    simp only [List.flatten_append, List.flatten_cons, List.append_assoc]

theorem spans_cons_iff {needle text : List Char} {rest : List (List Char)} :
    Spans needle (text :: rest) ↔ Spans needle rest ∨
      ∃ head tail, head ≠ [] ∧ tail ≠ [] ∧ needle = head ++ tail ∧ head <:+ text ∧
        tail <+: rest.flatten := by
  constructor
  · intro spans
    obtain ⟨before, first, between, last, after, split, head, tail, headNonempty, tailNonempty,
      ends, starts, same⟩ := spans
    cases before with
    | nil =>
        obtain ⟨rfl, rfl⟩ := List.cons.inj split
        refine Or.inr ⟨head, between.flatten ++ tail, headNonempty, ?_, ?_, ends, ?_⟩
        · exact List.append_ne_nil_of_right_ne_nil _ tailNonempty
        · rw [same, List.append_assoc]
        · refine (prefix_flatten_iff (List.append_ne_nil_of_right_ne_nil _ tailNonempty)).2 ?_
          exact ⟨between, last, after, tail, rfl, tailNonempty, starts, rfl⟩
    | cons other before =>
        obtain ⟨rfl, rest⟩ := List.cons.inj split
        exact Or.inl ⟨before, first, between, last, after, rest, head, tail, headNonempty,
          tailNonempty, ends, starts, same⟩
  · intro either
    rcases either with spans | ⟨head, start, headNonempty, startNonempty, same, ends, starts⟩
    · obtain ⟨before, first, between, last, after, split, torn⟩ := spans
      exact ⟨text :: before, first, between, last, after, by rw [split, List.cons_append], torn⟩
    · obtain ⟨between, last, after, tail, split, tailNonempty, begins, joined⟩ :=
        (prefix_flatten_iff startNonempty).1 starts
      refine ⟨[], text, between, last, after, ?_, head, tail, headNonempty, tailNonempty, ends,
        begins, ?_⟩
      · rw [split, List.nil_append]
      · rw [same, joined, List.append_assoc]

/-- A needle stands in joined texts exactly if it stands in one of them or across several. -/
theorem infix_flatten_iff {needle : List Char} {texts : List (List Char)} (nonempty : needle ≠ []) :
    needle <:+: texts.flatten ↔ (∃ text ∈ texts, needle <:+: text) ∨ Spans needle texts := by
  induction texts with
  | nil =>
      refine iff_of_false (fun within => nonempty (List.infix_nil.1 within)) ?_
      rintro (⟨text, member, _⟩ | ⟨before, first, between, last, after, split, _⟩)
      · cases member
      · exact List.append_ne_nil_of_right_ne_nil before (List.cons_ne_nil _ _) split.symm
  | cons text rest ih =>
      rw [List.flatten_cons, List.infix_append_iff_ne_nil, ih, spans_cons_iff, or_assoc, ← or_assoc]
      simp only [List.mem_cons, exists_eq_or_imp]

theorem infix_around_iff {mark : Char} {needle before after : List Char} (absent : mark ∉ needle) :
    needle <:+: before ++ mark :: after ↔ needle <:+: before ∨ needle <:+: after := by
  constructor
  · intro stands
    rcases List.infix_append_iff_ne_nil.1 stands with within | behind |
      ⟨head, tail, _, nonempty, rfl, ends, begins⟩
    · exact Or.inl within
    · rcases List.infix_cons_iff.1 behind with begins | within
      · cases needle with
        | nil => exact Or.inl List.nil_infix
        | cons c needle =>
            exact absurd (List.mem_cons.2 (Or.inl (List.cons_prefix_cons.1 begins).1.symm)) absent
      · exact Or.inr within
    · cases tail with
      | nil => exact absurd rfl nonempty
      | cons c tail =>
          refine absurd (List.mem_append_right head ?_) absent
          exact List.mem_cons.2 (Or.inl (List.cons_prefix_cons.1 begins).1.symm)
  · intro either
    rcases either with within | within
    · exact List.infix_append_of_infix_left within
    · exact List.infix_append_of_infix_right (List.infix_cons within)

/-- A needle stands behind a block of other characters if it stands in both. -/
theorem infix_behind_iff {needle block rest : List Char} (nonempty : needle ≠ [])
    (absent : ∀ c ∈ block, c ∉ needle) : needle <:+: block ++ rest ↔ needle <:+: rest := by
  induction block with
  | nil => rfl
  | cons c block ih =>
      rw [List.cons_append, List.infix_cons_iff,
        ih fun other member => absent other (List.mem_cons_of_mem _ member), or_iff_right_iff_imp]
      intro begins
      obtain ⟨first, needle, rfl⟩ := List.exists_cons_of_ne_nil nonempty
      have same := (List.cons_prefix_cons.1 begins).1
      exact absurd (same ▸ List.mem_cons_self) (absent c List.mem_cons_self)

end BomEvidence.Text
