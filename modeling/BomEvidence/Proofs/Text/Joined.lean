import BomEvidence.Proofs.Text.Pieces
import BomEvidence.Proofs.Text.Spanning
import Mathlib.Data.List.Basic
import Mathlib.Data.List.Infix

/-!
Texts that are put together with marks and cut at the same marks again. What was put before the
first mark or behind the last one comes back, if the mark does not stand in it by itself.
-/

namespace BomEvidence.Text

variable {mark piece rest text : List Char}

theorem free_of_absent {c : Char} (inMark : c ∈ mark) (absent : c ∉ text) : ¬mark <:+: text :=
  fun within => absent (within.subset inMark)

/-! ### Pieces that end at the first mark -/

theorem Clear.of_first {first : Char} {back : List Char} (absent : first ∉ piece) :
    Clear (first :: back) piece := by
  intro before after same
  rcases List.append_eq_append_iff.1 same with ⟨excess, _, behind⟩ | ⟨overlap, front, behind⟩
  · have lengths := congrArg List.length behind
    simp only [List.length_append, List.length_cons] at lengths
    apply List.eq_nil_of_length_eq_zero
    omega
  · cases overlap with
    | nil =>
        have lengths := congrArg List.length behind
        simp only [List.length_append, List.length_cons, List.length_nil] at lengths
        apply List.eq_nil_of_length_eq_zero
        omega
    | cons c overlap =>
        rw [List.cons_append, List.cons_append] at behind
        apply absurd _ absent
        rw [front, (List.cons.inj behind).1]
        exact List.mem_append_right before List.mem_cons_self

/-- A character that the mark has once, and the piece not at all, tells where the mark is. -/
theorem Clear.of_once {c : Char} {front back : List Char} (absent : c ∉ piece ++ front)
    (once : c ∉ back) : Clear (front ++ c :: back) piece := by
  intro before after same
  have cut : (piece ++ front) ++ c :: back = (before ++ front) ++ c :: (back ++ after) := by
    simpa only [List.append_assoc, List.cons_append] using same
  have behind : back = back ++ after :=
    ((List.append_cons_inj_of_notMem absent once).1 cut).2.2
  exact List.append_right_eq_self.1 behind.symm

/-- A character that is not in the mark keeps apart what stands on its two sides. -/
theorem Clear.behind {front : List Char} {c : Char} (absent : c ∉ mark)
    (free : ¬mark <:+: front) (clear : Clear mark piece) : Clear mark (front ++ c :: piece) := by
  intro before after same
  have apart : ∀ left, front ≠ before ++ (mark ++ left) := by
    rintro left rfl
    exact free (List.infix_append' before mark left)
  have cut : front ++ c :: (piece ++ mark) = before ++ (mark ++ after) := by
    simpa only [List.append_assoc, List.cons_append] using same
  rcases List.append_eq_append_iff.1 cut with ⟨left, rfl, inside⟩ | ⟨right, rfl, inside⟩
  · cases left with
    | nil =>
        cases mark with
        | nil => exact absurd List.nil_infix free
        | cons m mark => exact absurd (List.mem_cons.2 (Or.inl (List.cons.inj inside).1)) absent
    | cons d left =>
        rw [List.cons_append] at inside
        exact clear left after (List.cons.inj inside).2
  · rcases List.append_eq_append_iff.1 inside with ⟨left, rfl, _⟩ | ⟨left, rfl, others⟩
    · exact absurd rfl (apart left)
    · cases left with
      | nil => exact absurd (by simp) (apart [])
      | cons d left =>
          rw [List.cons_append] at others
          apply absurd _ absent
          rw [(List.cons.inj others).1]
          exact List.mem_append_right right List.mem_cons_self

/-! ### Before the first mark -/

theorem break_at_mark (clear : Clear mark piece) (rest : List Char) :
    breakAt? mark (piece ++ (mark ++ rest)) = some (piece, rest) := by
  induction piece with
  | nil =>
      rw [List.nil_append]
      cases same : mark ++ rest with
      | nil =>
          obtain ⟨rfl, rfl⟩ := List.append_eq_nil_iff.1 same
          rfl
      | cons c text =>
          have dropped : dropStart? mark (c :: text) = some rest := drop_start_eq_some.2 same.symm
          rw [breakAt?, dropped]
  | cons c piece ih =>
      have other : dropStart? mark (c :: (piece ++ (mark ++ rest))) = none := by
        rw [Option.eq_none_iff_forall_ne_some]
        intro left dropped
        exact clear.not_prefix rest ⟨left, (drop_start_eq_some.1 dropped).symm⟩
      rw [List.cons_append, breakAt?, other, ih clear.tail]
      rfl

theorem break_at_free (free : ¬mark <:+: text) : breakAt? mark text = none := by
  induction text with
  | nil =>
      rw [List.infix_nil] at free
      rw [breakAt?, if_neg]
      rwa [List.isEmpty_iff]
  | cons c text ih =>
      rw [List.infix_cons_iff, not_or] at free
      have other : dropStart? mark (c :: text) = none := by
        rw [Option.eq_none_iff_forall_ne_some]
        intro left dropped
        exact free.1 ⟨left, (drop_start_eq_some.1 dropped).symm⟩
      rw [breakAt?, other, ih free.2]
      rfl

theorem break_at_behind {front : List Char} (nonempty : mark ≠ [])
    (other : ∀ c ∈ front, mark.head? ≠ some c) (text : List Char) :
    breakAt? mark (front ++ text) =
      (breakAt? mark text).map fun (head, rest) => (front ++ head, rest) := by
  induction front with
  | nil => exact Option.map_id'.symm
  | cons c front ih =>
      have later := ih fun d member => other d (List.mem_cons_of_mem _ member)
      have apart : dropStart? mark (c :: (front ++ text)) = none := by
        rw [Option.eq_none_iff_forall_ne_some]
        intro left dropped
        obtain ⟨first, back, rfl⟩ := List.exists_cons_of_ne_nil nonempty
        have same := (List.cons.inj (drop_start_eq_some.1 dropped)).1
        exact other c List.mem_cons_self (congrArg some same.symm)
      rw [List.cons_append, breakAt?, apart, later]
      dsimp only
      rw [Option.map_map]
      rfl

theorem eq_of_break_at {head : List Char} (found : breakAt? mark text = some (head, rest)) :
    text = head ++ (mark ++ rest) := by
  induction text generalizing head with
  | nil =>
      rw [breakAt?] at found
      split at found
      · rename_i empty
        rw [List.isEmpty_iff.1 empty]
        cases found
        rfl
      · cases found
  | cons c text ih =>
      cases dropped : dropStart? mark (c :: text) with
      | some left =>
          rw [breakAt?, dropped] at found
          cases found
          rw [List.nil_append]
          exact drop_start_eq_some.1 dropped
      | none =>
          rw [breakAt?, dropped] at found
          obtain ⟨⟨before, after⟩, later, same⟩ := Option.map_eq_some_iff.1 found
          cases same
          rw [ih later, List.cons_append]

theorem prefix_before {front : List Char} {c : Char} (absent : c ∉ mark)
    (begins : mark <+: front ++ c :: rest) : mark <+: front := by
  obtain ⟨after, same⟩ := begins
  rcases List.append_eq_append_iff.1 same with ⟨left, whole, _⟩ | ⟨left, whole, behind⟩
  · exact ⟨left, whole.symm⟩
  · cases left with
    | nil => exact ⟨[], by rw [whole, List.append_nil, List.append_nil]⟩
    | cons d left =>
        rw [List.cons_append] at behind
        apply absurd _ absent
        rw [whole, (List.cons.inj behind).1]
        exact List.mem_append_right front List.mem_cons_self

/-- The mark neither stands in the text nor begins at its end. -/
structure Passes (mark front : List Char) : Prop where
  free : ¬mark <:+: front
  apart : ∀ start, start <+: mark → start <:+ front → start = []

theorem Passes.begins {front head : List Char} (passes : Passes mark front) {text : List Char}
    (same : front ++ text = head ++ (mark ++ rest)) : front <+: head := by
  rcases List.append_eq_append_iff.1 same with ⟨left, rfl, _⟩ | ⟨start, rfl, inside⟩
  · exact List.prefix_append front left
  · rcases List.append_eq_append_iff.1 inside with ⟨left, rfl, _⟩ | ⟨left, rfl, _⟩
    · exact absurd (List.infix_append' head mark left) passes.free
    · rw [passes.apart start (List.prefix_append start left) (List.suffix_append head start),
        List.append_nil]

/-- Behind a pair of equal characters a mark goes on only if it has such a pair or begins with one
of them. -/
theorem Passes.of_pair {front : List Char} {c : Char} (free : ¬mark <:+: front ++ [c, c])
    (start : mark.head? ≠ some c) (single : ¬[c, c] <:+: mark) : Passes mark (front ++ [c, c]) := by
  refine ⟨free, ?_⟩
  intro begin begins ends
  have pair : front ++ [c, c] = (front ++ [c]) ++ [c] := by simp
  rw [pair, List.suffix_concat_iff] at ends
  rcases ends with nothing | ⟨before, rfl, ends⟩
  · exact nothing
  · rw [List.suffix_concat_iff] at ends
    rcases ends with rfl | ⟨before, rfl, _⟩
    · obtain ⟨after, rfl⟩ := begins
      exact absurd rfl start
    · apply absurd _ single
      refine List.IsInfix.trans ⟨before, [], ?_⟩ begins.isInfix
      simp

/-! ### Behind the last mark -/

theorem after_last_free (free : ¬mark <:+: text) : afterLast? mark text = none := by
  induction text with
  | nil =>
      rw [List.infix_nil] at free
      rw [afterLast?, if_neg]
      rwa [List.isEmpty_iff]
  | cons c text ih =>
      rw [List.infix_cons_iff, not_or] at free
      rw [afterLast?, ih free.2]
      dsimp only
      rw [Option.eq_none_iff_forall_ne_some]
      intro left dropped
      exact free.1 ⟨left, (drop_start_eq_some.1 dropped).symm⟩

theorem after_last_behind (found : afterLast? mark text = some rest) (front : List Char) :
    afterLast? mark (front ++ text) = some rest := by
  induction front with
  | nil => exact found
  | cons c front ih => rw [List.cons_append, afterLast?, ih]

/-! ### Marks of one character -/

theorem each_of_all {motive : Char → Prop} [DecidablePred motive]
    (all : text.all (fun c => decide (motive c)) = true) : ∀ c ∈ text, motive c :=
  fun c member => of_decide_eq_true (List.all_eq_true.1 all c member)

theorem split_chars_single (c : Char) (text : List Char) :
    splitChars [c] text = text.splitOn c := by
  have nonempty : [c] ≠ [] := List.cons_ne_nil c []
  rw [List.splitOn_eq_splitOnP]
  induction text with
  | nil => rfl
  | cons d text ih =>
      rw [List.splitOnP_cons_eq_if_modifyHead]
      by_cases same : d = c
      · subst same
        rw [if_pos (beq_self_eq_true d), ← ih]
        exact split_chars_mark nonempty text
      · rw [if_neg (by rwa [beq_iff_eq]), ← ih]
        apply split_chars_other nonempty
        rw [List.cons_prefix_cons, not_and]
        intro equal
        exact absurd equal.symm same

theorem split_on_mark (c : Char) (front rest : List Char) :
    (front ++ c :: rest).splitOn c = front.splitOn c ++ rest.splitOn c := by
  simp only [List.splitOn_eq_splitOnP]
  exact List.splitOnP_append_cons _ _ (by exact beq_self_eq_true c)

theorem after_last_char {c : Char} (absent : c ∉ rest) (front : List Char) :
    afterLast? [c] (front ++ c :: rest) = some rest := by
  apply after_last_behind
  have none : afterLast? [c] rest = none := by
    apply after_last_free
    rwa [List.singleton_infix_iff]
  rw [afterLast?, none]
  exact drop_start_eq_some.2 rfl

theorem eq_of_last_char {c : Char} {front other last : List Char} (absent : c ∉ rest)
    (absentToo : c ∉ last) (same : front ++ c :: rest = other ++ c :: last) :
    front = other ∧ rest = last := by
  have behind : rest = last := by
    have found := after_last_char absent front
    rw [same, after_last_char absentToo] at found
    exact (Option.some.inj found).symm
  subst behind
  exact ⟨List.append_cancel_right same, rfl⟩

/-! ### Joined texts -/

section Texts

variable {first mark last : String}

theorem before_mark (clear : Clear mark.toList first.toList) (rest : String) :
    before (first ++ mark ++ rest) mark = first := by
  rw [before, String.toList_append, String.toList_append, List.append_assoc, break_at_mark clear]
  exact String.ofList_toList

theorem before_free (free : ¬mark.toList <:+: first.toList) : before first mark = first := by
  rw [before, break_at_free free]

theorem before_passes (passes : Passes mark.toList first.toList) (rest : String) :
    ∃ left, before (first ++ rest) mark = first ++ left := by
  rw [before, String.toList_append]
  cases found : breakAt? mark.toList (first.toList ++ rest.toList) with
  | none => exact ⟨rest, rfl⟩
  | some parts =>
      obtain ⟨left, head⟩ := passes.begins (eq_of_break_at found)
      refine ⟨String.ofList left, ?_⟩
      dsimp only
      rw [← head, String.ofList_append, String.ofList_toList]

theorem replace_first_passes (passes : Passes mark.toList first.toList) (rest new : String) :
    ∃ left, replaceFirst (first ++ rest) mark new = first ++ left := by
  rw [replaceFirst, String.toList_append]
  cases found : breakAt? mark.toList (first.toList ++ rest.toList) with
  | none => exact ⟨rest, rfl⟩
  | some parts =>
      obtain ⟨left, head⟩ := passes.begins (eq_of_break_at found)
      refine ⟨String.ofList (left ++ new.toList ++ parts.2), ?_⟩
      dsimp only
      rw [← head, List.append_assoc, List.append_assoc, String.ofList_append, String.ofList_toList,
        List.append_assoc]

theorem replace_first_free (free : ¬mark.toList <:+: first.toList) (new : String) :
    replaceFirst first mark new = first := by
  rw [replaceFirst, break_at_free free]

theorem replace_first_start (mark rest : String) : replaceFirst (mark ++ rest) mark "" = rest := by
  have found := break_at_mark (clear_nil mark.toList) rest.toList
  rw [List.nil_append] at found
  rw [replaceFirst, String.toList_append, found]
  exact String.ofList_toList

theorem replace_first_behind (nonempty : mark.toList ≠ [])
    (other : ∀ c ∈ first.toList, mark.toList.head? ≠ some c) (text new : String) :
    replaceFirst (first ++ text) mark new = first ++ replaceFirst text mark new := by
  rw [replaceFirst, replaceFirst, String.toList_append, break_at_behind nonempty other]
  cases breakAt? mark.toList text.toList with
  | none => rfl
  | some parts =>
      dsimp only [Option.map_some]
      rw [List.append_assoc, List.append_assoc, String.ofList_append, String.ofList_toList,
        List.append_assoc]

theorem after_last_free_text (free : ¬mark.toList <:+: first.toList) :
    afterLast first mark = none := by
  rw [afterLast, after_last_free free]
  rfl

theorem after_last_mark {c : Char} (single : mark.toList = [c]) (absent : c ∉ last.toList)
    (front : String) : afterLast (front ++ mark ++ last) mark = some last := by
  rw [afterLast, String.toList_append, String.toList_append, single, List.append_assoc,
    List.singleton_append, after_last_char absent, Option.map_some, String.ofList_toList]

theorem append_mark_inj {c : Char} (single : mark.toList = [c]) {other later : String}
    (absent : c ∉ last.toList) (absentToo : c ∉ later.toList) :
    first ++ mark ++ last = other ++ mark ++ later ↔ first = other ∧ last = later := by
  constructor
  · intro same
    have letters := congrArg String.toList same
    simp only [String.toList_append, single, List.append_assoc, List.singleton_append] at letters
    obtain ⟨front, behind⟩ := eq_of_last_char absent absentToo letters
    exact ⟨String.toList_injective front, String.toList_injective behind⟩
  · intro both
    rw [both.1, both.2]

theorem contains_iff {text needle : String} :
    contains text needle = true ↔ needle.toList <:+: text.toList := occurs_iff_infix

theorem contains_mark (front mark rest : String) : contains (front ++ mark ++ rest) mark = true := by
  rw [contains_iff, String.toList_append, String.toList_append]
  exact List.infix_append _ _ _

theorem replace_free (nonempty : mark.toList ≠ []) (free : ¬mark.toList <:+: first.toList)
    (new : String) : replace first mark new = first := by
  rw [replace, split_chars_free nonempty free, List.intercalate_singleton, String.ofList_toList]

theorem replace_once (nonempty : mark.toList ≠ []) (clear : Clear mark.toList first.toList)
    (free : ¬mark.toList <:+: last.toList) (new : String) :
    replace (first ++ mark ++ last) mark new = first ++ new ++ last := by
  rw [replace, String.toList_append, String.toList_append, List.append_assoc,
    split_chars_cut nonempty clear, split_chars_free nonempty free, List.intercalate_cons_cons,
    List.intercalate_singleton, ← String.toList_append, ← String.toList_append,
    String.ofList_toList]

theorem split_eq {c : Char} (single : mark.toList = [c]) (text : String) :
    split text mark = (text.toList.splitOn c).map String.ofList := by
  rw [split, single, split_chars_single]

theorem split_ne_nil (text mark : String) : split text mark ≠ [] := by
  rw [split, Ne, List.map_eq_nil_iff]
  exact split_chars_ne_nil mark.toList text.toList

theorem split_behind {c : Char} (single : mark.toList = [c]) (absent : c ∉ last.toList)
    (front : String) : split (front ++ mark ++ last) mark = split front mark ++ [last] := by
  rw [split_eq single, split_eq single, String.toList_append, String.toList_append, single,
    List.append_assoc, List.singleton_append, split_on_mark, List.splitOn_eq_singleton absent,
    List.map_append, List.map_singleton, String.ofList_toList]

theorem join_split {c : Char} (single : mark.toList = [c]) (text : String) :
    join mark (split text mark) = text := by
  have texts : String.toList ∘ String.ofList = id := funext fun _ => String.toList_ofList
  rw [split_eq single, join, single, List.map_map, texts, List.map_id, List.intercalate_splitOn,
    String.ofList_toList]

theorem directory_of_within (directory : String) {name : String} (last : '/' ∉ name.toList) :
    Text.directory (directory ++ "/" ++ name) = directory := by
  have several : 1 < (split directory "/" ++ [name]).length := by
    rw [List.length_append, List.length_singleton]
    exact Nat.succ_lt_succ (List.length_pos_iff.2 (split_ne_nil directory "/"))
  unfold Text.directory
  dsimp only
  rw [split_behind rfl last, if_pos several, List.dropLast_concat, join_split rfl]

theorem directory_of_name {name : String} (single : '/' ∉ name.toList) : directory name = name := by
  have apart : name.toList.splitOn '/' = [name.toList] := List.splitOn_eq_singleton single
  have whole : split name "/" = [name] := by
    rw [split_eq (c := '/') rfl, apart, List.map_singleton, String.ofList_toList]
  have joined : join "/" (split name "/") = name := join_split (c := '/') rfl name
  rw [whole] at joined
  unfold directory
  rw [whole]
  exact joined

end Texts

end BomEvidence.Text
