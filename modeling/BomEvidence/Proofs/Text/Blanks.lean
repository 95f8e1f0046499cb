import BomEvidence.Proofs.Text.Joined
import BomEvidence.Text.Case
import Mathlib.Data.List.TakeWhile

/-!
Blanks around texts, and the parts of texts. A text is trimmed to the core that has no blank at
its ends and is the text but for blanks around it; a text without blanks is its own core, and a
text of blanks alone has none. A blank has no other small letter, so the lower-case mapping neither
makes nor hides one. The parts of a text between marks of one character are the stretches without
that character whose both sides are a mark or an end of the text.
-/

namespace BomEvidence.Text

/-! ### Blanks -/

theorem trim_of_shown {text : String} (shown : ∀ c ∈ text.toList, isBlank c = false) :
    trim text = text := by
  have kept : ∀ {chars : List Char}, (∀ c ∈ chars, isBlank c = false) →
      chars.dropWhile isBlank = chars := by
    intro chars shown
    cases chars with
    | nil => rfl
    | cons c rest =>
        rw [List.dropWhile_cons, shown c List.mem_cons_self, if_neg Bool.false_ne_true]
  have backwards : ∀ c ∈ text.toList.reverse, isBlank c = false :=
    fun c member => shown c (List.mem_reverse.1 member)
  rw [trim, trimChars, kept shown, kept backwards, List.reverse_reverse, String.ofList_toList]

theorem trim_eq_empty_iff {text : String} : trim text = "" ↔ allBlank text = true := by
  have behind : trim text = "" ↔ ∀ c ∈ text.toList.dropWhile isBlank, isBlank c = true := by
    rw [trim, trimChars, String.ofList_eq_empty_iff, List.reverse_eq_nil_iff,
      List.dropWhile_eq_nil_iff]
    simp only [List.mem_reverse]
  rw [behind, allBlank, List.all_eq_true]
  constructor
  · intro rest c member
    rw [← List.takeWhile_append_dropWhile (p := isBlank) (l := text.toList)] at member
    rcases List.mem_append.1 member with front | back
    · exact List.mem_takeWhile_imp front
    · exact rest c back
  · intro all c member
    exact all c ((List.dropWhile_sublist isBlank).subset member)

def blankCodes : List Nat :=
  [0x09, 0x0A, 0x0B, 0x0C, 0x0D, 0x20, 0x85, 0xA0, 0x1680, 0x2000, 0x2001, 0x2002, 0x2003, 0x2004,
    0x2005, 0x2006, 0x2007, 0x2008, 0x2009, 0x200A, 0x2028, 0x2029, 0x202F, 0x205F, 0x3000]

theorem is_blank_iff {c : Char} : isBlank c = true ↔ c.toNat ∈ blankCodes := by
  simp only [isBlank, Bool.or_eq_true, Bool.and_eq_true, decide_eq_true_eq, blankCodes,
    List.mem_cons, List.not_mem_nil, or_false]
  constructor <;> omega

/-- The core is what is left of a text without the blanks at both of its ends. -/
structure Trims (text core : List Char) : Prop where
  within : ∃ front back, text = front ++ core ++ back ∧
    ∀ c ∈ front ++ back, c.toNat ∈ blankCodes
  starts : ∀ c ∈ core.head?, c.toNat ∉ blankCodes
  ends : ∀ c ∈ core.getLast?, c.toNat ∉ blankCodes

theorem drop_blanks {front text : List Char} (blanks : ∀ c ∈ front, c.toNat ∈ blankCodes)
    (starts : ∀ c ∈ text.head?, c.toNat ∉ blankCodes) :
    (front ++ text).dropWhile isBlank = text := by
  rw [List.dropWhile_append_of_pos fun c member => is_blank_iff.2 (blanks c member)]
  cases text with
  | nil => rfl
  | cons c rest =>
      exact List.dropWhile_cons_of_neg fun blank => starts c rfl (is_blank_iff.1 blank)

theorem head_of_drop_blanks {text : List Char} :
    ∀ c ∈ (text.dropWhile isBlank).head?, c.toNat ∉ blankCodes := by
  intro c first blank
  have stops := List.head?_dropWhile_not isBlank text
  rw [Option.mem_def.1 first] at stops
  exact absurd (is_blank_iff.2 blank) (by simpa using stops)

theorem trim_chars_eq_iff {text core : List Char} : trimChars text = core ↔ Trims text core := by
  constructor
  · rintro rfl
    let behind := text.dropWhile isBlank
    have cut : behind = trimChars text ++ (behind.reverse.takeWhile isBlank).reverse := by
      unfold trimChars
      rw [← List.reverse_append, List.takeWhile_append_dropWhile, List.reverse_reverse]
    have blanks : ∀ {chars : List Char}, ∀ c ∈ chars.takeWhile isBlank, c.toNat ∈ blankCodes :=
      fun c member => is_blank_iff.1 (List.mem_takeWhile_imp member)
    refine ⟨⟨text.takeWhile isBlank, (behind.reverse.takeWhile isBlank).reverse, ?_, ?_⟩, ?_, ?_⟩
    · rw [List.append_assoc, ← cut, List.takeWhile_append_dropWhile]
    · intro c member
      rcases List.mem_append.1 member with front | back
      · exact blanks c front
      · exact blanks c (List.mem_reverse.1 back)
    · intro c first
      have ofBehind : c ∈ behind.head? := by
        rw [cut]
        exact List.mem_head?_append_of_mem_head? first
      exact head_of_drop_blanks c ofBehind
    · intro c last
      rw [trimChars, List.getLast?_reverse] at last
      exact head_of_drop_blanks c last
  · intro trims
    obtain ⟨front, back, rfl, blanks⟩ := trims.within
    have blankFront := fun c member => blanks c (List.mem_append_left back member)
    have blankBack : ∀ c ∈ back.reverse, c.toNat ∈ blankCodes :=
      fun c member => blanks c (List.mem_append_right front (List.mem_reverse.1 member))
    have ends : ∀ c ∈ core.reverse.head?, c.toNat ∉ blankCodes := by
      rw [List.head?_reverse]
      exact trims.ends
    unfold trimChars
    by_cases nothing : core = []
    · -- Of a text of blanks alone nothing is left when its front is dropped.
      subst nothing
      have dropped : (front ++ back ++ []).dropWhile isBlank = [] := drop_blanks blanks (by simp)
      rw [List.append_nil] at dropped ⊢
      rw [dropped]
      rfl
    · have starts : ∀ c ∈ (core ++ back).head?, c.toNat ∉ blankCodes := by
        rw [List.head?_append_of_ne_nil core nothing]
        exact trims.starts
      rw [List.append_assoc, drop_blanks blankFront starts, List.reverse_append,
        drop_blanks blankBack ends, List.reverse_reverse]

theorem lower_char_of_blank {c : Char} (blank : isBlank c = true) : lowerChar c = [c] := by
  have all : ∀ code ∈ blankCodes, lowerChar (Char.ofNat code) = [Char.ofNat code] := by
    decide +kernel
  have own := all c.toNat (is_blank_iff.1 blank)
  rwa [Char.ofNat_toNat] at own

theorem shown_of_lower {text : String} (shown : ∀ c ∈ (lower text).toList, isBlank c = false) :
    ∀ c ∈ text.toList, isBlank c = false := by
  intro c member
  rw [← Bool.not_eq_true]
  intro blank
  have mapped : c ∈ (lower text).toList := by
    rw [lower, String.toList_ofList]
    refine List.mem_flatMap.2 ⟨c, member, ?_⟩
    rw [lower_char_of_blank blank]
    exact List.mem_singleton_self c
  rw [shown c mapped] at blank
  exact Bool.false_ne_true blank

/-! ### Parts -/

/-- The part stands in the text between marks or the ends of the text. -/
def HasPart (mark text part : List Char) : Prop :=
  ∃ before after, text = before ++ part ++ after ∧ (before = [] ∨ mark <:+ before) ∧
    (after = [] ∨ mark <+: after)

theorem CutsInto.has_part {mark text : List Char} {pieces : List (List Char)}
    (cuts : CutsInto mark text pieces) {part : List Char} (member : part ∈ pieces) :
    HasPart mark text part := by
  induction cuts with
  | whole free =>
      rw [List.mem_singleton.1 member]
      exact ⟨[], [], by simp, .inl rfl, .inl rfl⟩
  | @cut piece rest pieces clear more ih =>
      rcases List.mem_cons.1 member with rfl | later
      · exact ⟨[], mark ++ rest, rfl, .inl rfl, .inr (List.prefix_append mark rest)⟩
      · obtain ⟨before, after, rfl, starts, ends⟩ := ih later
        refine ⟨piece ++ (mark ++ before), after, by simp only [List.append_assoc], .inr ?_, ends⟩
        rcases starts with rfl | starts
        · rw [List.append_nil]
          exact List.suffix_append piece mark
        · exact starts.trans ((List.suffix_append mark before).trans (List.suffix_append piece _))

theorem CutsInto.free {mark text : List Char} {pieces : List (List Char)}
    (cuts : CutsInto mark text pieces) (nonempty : mark ≠ []) {part : List Char}
    (member : part ∈ pieces) : ¬mark <:+: part := by
  induction cuts with
  | whole free =>
      rw [List.mem_singleton.1 member]
      exact free
  | cut clear more ih =>
      rcases List.mem_cons.1 member with rfl | later
      · exact clear.free nonempty
      · exact ih later

theorem exists_cut_of_mem_split {mark text part : String} (nonempty : mark.toList ≠ [])
    (member : part ∈ split text mark) :
    ∃ pieces, CutsInto mark.toList text.toList pieces ∧ part.toList ∈ pieces := by
  obtain ⟨piece, among, rfl⟩ := List.mem_map.1 member
  refine ⟨_, (cuts_into_iff nonempty).2 rfl, ?_⟩
  rwa [String.toList_ofList]

theorem mem_split_iff {c : Char} {mark text part : String} (single : mark.toList = [c])
    (absent : c ∉ part.toList) :
    part ∈ split text mark ↔ HasPart mark.toList text.toList part.toList := by
  have nonempty : mark.toList ≠ [] := by
    rw [single]
    exact List.cons_ne_nil c []
  constructor
  · intro member
    obtain ⟨_, cuts, among⟩ := exists_cut_of_mem_split nonempty member
    exact cuts.has_part among
  · rintro ⟨before, after, same, starts, ends⟩
    rw [split_eq single, same]
    refine List.mem_map.2 ⟨part.toList, ?_, String.ofList_toList⟩
    have first : part.toList ∈ (part.toList ++ after).splitOn c := by
      rcases ends with rfl | ⟨rest, rfl⟩
      · rw [List.append_nil, List.splitOn_eq_singleton absent]
        exact List.mem_singleton_self _
      · rw [single, List.singleton_append, split_on_mark, List.splitOn_eq_singleton absent]
        exact List.mem_append_left _ (List.mem_singleton_self _)
    rcases starts with rfl | ⟨front, rfl⟩
    · rwa [List.nil_append]
    · rw [single, List.append_assoc, List.append_assoc, List.singleton_append,
        split_on_mark]
      exact List.mem_append_right _ first

theorem mem_split_single_iff {c : Char} {mark text part : String} (single : mark.toList = [c]) :
    part ∈ split text mark ↔ c ∉ part.toList ∧ HasPart mark.toList text.toList part.toList := by
  have absent : part ∈ split text mark → c ∉ part.toList := by
    intro member
    have nonempty : mark.toList ≠ [] := by
      rw [single]
      exact List.cons_ne_nil c []
    obtain ⟨_, cuts, among⟩ := exists_cut_of_mem_split nonempty member
    have free := cuts.free nonempty among
    rwa [single, List.singleton_infix_iff] at free
  constructor
  · intro member
    exact ⟨absent member, (mem_split_iff single (absent member)).1 member⟩
  · intro fact
    exact (mem_split_iff single fact.1).2 fact.2

end BomEvidence.Text
