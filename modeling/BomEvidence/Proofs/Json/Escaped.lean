import BomEvidence.Json.Value
import BomEvidence.Proofs.Text.Spanning

/-!
Texts inside of quotes. Quotation marks, backslashes and control characters are escaped there, so
that a text need not stand in its own escaped form. It does exactly if it is legible: it has no
control characters, and no backslashes and quotation marks but backslashes at its ends and a
quotation mark behind the first of these. A text without quotation marks stands in the written form
of an array that lists it exactly if it stands in the escaped form of some listed text.
-/

namespace BomEvidence.Json

def escaped (text : List Char) : List Char := text.flatMap escape

/-- Backslashes, then characters of which the first alone may be a quotation mark, and again
backslashes. -/
def Legible (text : List Char) : Prop :=
  ∃ leading core trailing,
    text = List.replicate leading '\\' ++ core ++ List.replicate trailing '\\' ∧
      (∀ c ∈ core, 0x20 ≤ c.toNat ∧ c ≠ '\\') ∧ ∀ c ∈ core.tail, c ≠ '"'

/-! ### Single characters -/

theorem escape_of_shown {c : Char} (shown : 0x20 ≤ c.toNat) :
    escape c = if c = '"' ∨ c = '\\' then ['\\', c] else [c] := by
  have noControl {other : Char} (low : other.toNat < 0x20) : c ≠ other := by
    rintro rfl
    omega
  unfold escape
  by_cases quote : c = '"'
  · rw [quote]
    rfl
  by_cases backslash : c = '\\'
  · rw [backslash]
    rfl
  rw [if_neg quote, if_neg backslash, if_neg (by omega), if_neg (noControl (by decide)),
    if_neg (noControl (by decide)), if_neg (by omega), if_neg (noControl (by decide)),
    if_neg (by omega), if_neg (by simp [quote, backslash])]

theorem escape_of_plain {c : Char} (shown : 0x20 ≤ c.toNat) (noQuote : c ≠ '"')
    (noBackslash : c ≠ '\\') : escape c = [c] := by
  rw [escape_of_shown shown, if_neg (by simp [noQuote, noBackslash])]

theorem escape_ends {c : Char} (shown : 0x20 ≤ c.toNat) :
    ∃ count, escape c = List.replicate count '\\' ++ [c] := by
  rw [escape_of_shown shown]
  split
  · exact ⟨1, rfl⟩
  · exact ⟨0, rfl⟩

theorem escape_of_control : ∀ code < 0x20,
    (escape (Char.ofNat code)).all (fun written => 0x20 ≤ written.toNat) = true := by
  decide +kernel

theorem shown_of_mem_escape {c written : Char} (member : written ∈ escape c) :
    0x20 ≤ written.toNat := by
  by_cases shown : 0x20 ≤ c.toNat
  · rw [escape_of_shown shown] at member
    split at member
    · rcases List.mem_cons.1 member with rfl | last
      · decide
      · rwa [List.mem_singleton.1 last]
    · rwa [List.mem_singleton.1 member]
  · have control := escape_of_control c.toNat (Nat.lt_of_not_le shown)
    rw [Char.ofNat_toNat] at control
    exact of_decide_eq_true (List.all_eq_true.1 control written member)

/-! ### Texts -/

theorem escaped_append (first second : List Char) :
    escaped (first ++ second) = escaped first ++ escaped second := List.flatMap_append

theorem escaped_cons (c : Char) (text : List Char) :
    escaped (c :: text) = escape c ++ escaped text :=
  List.flatMap_cons

theorem escaped_shown {text : List Char} : ∀ c ∈ escaped text, 0x20 ≤ c.toNat := by
  intro c member
  obtain ⟨_, _, among⟩ := List.mem_flatMap.1 member
  exact shown_of_mem_escape among

theorem escaped_backslashes (count : Nat) :
    escaped (List.replicate count '\\') = List.replicate (count + count) '\\' := by
  induction count with
  | zero => rfl
  | succ count ih =>
      have pair : escape '\\' = List.replicate 2 '\\' := rfl
      rw [List.replicate_succ, escaped_cons, ih, pair, List.replicate_append_replicate]
      congr 1
      omega

theorem escaped_of_plain {text : List Char}
    (plain : ∀ c ∈ text, 0x20 ≤ c.toNat ∧ c ≠ '"' ∧ c ≠ '\\') : escaped text = text := by
  induction text with
  | nil => rfl
  | cons c rest ih =>
      obtain ⟨shown, noQuote, noBackslash⟩ := plain c List.mem_cons_self
      rw [escaped_cons, escape_of_plain shown noQuote noBackslash,
        ih fun other member => plain other (List.mem_cons_of_mem _ member)]
      rfl

theorem Legible.stands {text : List Char} (legible : Legible text) : text <:+: escaped text := by
  obtain ⟨leading, core, trailing, rfl, shown, unquoted⟩ := legible
  rw [escaped_append, escaped_append, escaped_backslashes, escaped_backslashes]
  cases core with
  | nil =>
      refine ⟨List.replicate leading '\\', List.replicate trailing '\\', ?_⟩
      simp only [escaped, List.flatMap_nil, List.append_nil, List.replicate_append_replicate]
      congr 1
      omega
  | cons c rest =>
      obtain ⟨count, single⟩ := escape_ends (shown c List.mem_cons_self).1
      have others : escaped rest = rest := by
        apply escaped_of_plain
        intro other member
        have fine := shown other (List.mem_cons_of_mem _ member)
        exact ⟨fine.1, unquoted other member, fine.2⟩
      have ahead : List.replicate (leading + leading) '\\' ++ List.replicate count '\\' =
          List.replicate (leading + count) '\\' ++ List.replicate leading '\\' := by
        rw [List.replicate_append_replicate, List.replicate_append_replicate]
        congr 1
        omega
      rw [escaped_cons, single, others, ← List.replicate_append_replicate (n := trailing),
        ← List.append_assoc, ← List.append_assoc, ← List.append_assoc, ahead]
      exact ⟨List.replicate (leading + count) '\\', List.replicate trailing '\\', by
        simp only [List.append_assoc, List.cons_append, List.nil_append]⟩

/-- Escaping adds backslashes alone to a text without control characters. -/
theorem filter_escaped {text : List Char} (shown : ∀ c ∈ text, 0x20 ≤ c.toNat) :
    (escaped text).filter (· != '\\') = text.filter (· != '\\') := by
  induction text with
  | nil => rfl
  | cons c rest ih =>
      rw [escaped_cons, List.filter_append, ih fun other member =>
        shown other (List.mem_cons_of_mem _ member), ← List.singleton_append, List.filter_append]
      congr 1
      by_cases backslash : c = '\\'
      · rw [backslash]
        rfl
      · obtain ⟨count, single⟩ := escape_ends (shown c List.mem_cons_self)
        rw [single, List.filter_append, List.filter_replicate]
        rfl

theorem eq_backslashes {text : List Char} (none : text.filter (· != '\\') = []) :
    ∃ count, text = List.replicate count '\\' := by
  refine ⟨text.length, List.eq_replicate_of_mem fun c member => ?_⟩
  have failed := List.filter_eq_nil_iff.1 none c member
  simpa using failed

theorem leading_backslashes (text : List Char) : ∃ count, text = List.replicate count '\\' ∨
    ∃ c rest, c ≠ '\\' ∧ text = List.replicate count '\\' ++ c :: rest := by
  induction text with
  | nil => exact ⟨0, Or.inl rfl⟩
  | cons first text ih =>
      by_cases backslash : first = '\\'
      · obtain ⟨count, all | ⟨c, rest, other, split⟩⟩ := ih
        · exact ⟨count + 1, Or.inl (by rw [backslash, all]; rfl)⟩
        · exact ⟨count + 1, Or.inr ⟨c, rest, other, by rw [backslash, split]; rfl⟩⟩
      · exact ⟨0, Or.inr ⟨first, text, backslash, rfl⟩⟩

theorem behind_backslashes {first second : Nat} {c : Char} {rest others : List Char}
    (noBackslash : c ≠ '\\')
    (same : List.replicate first '\\' ++ c :: rest = List.replicate second '\\' ++ c :: others) :
    rest = others := by
  induction first generalizing second with
  | zero =>
      cases second with
      | zero => exact (List.cons.inj same).2
      | succ second => exact absurd (List.cons.inj same).1 noBackslash
  | succ first ih =>
      cases second with
      | zero => exact absurd (List.cons.inj same).1.symm noBackslash
      | succ second => exact ih (List.cons.inj same).2

theorem backslashes_of_shifted {text : List Char} {before after : Nat} (positive : 0 < before)
    (same : List.replicate before '\\' ++ escaped text = text ++ List.replicate after '\\') :
    ∃ count, text = List.replicate count '\\' := by
  induction text generalizing before with
  | nil => exact ⟨0, rfl⟩
  | cons c rest ih =>
      obtain ⟨before, rfl⟩ := Nat.exists_eq_succ_of_ne_zero (Nat.ne_of_gt positive)
      rw [List.replicate_succ, List.cons_append, List.cons_append] at same
      obtain ⟨rfl, tails⟩ := List.cons.inj same
      have further : List.replicate (before + 2) '\\' ++ escaped rest =
          rest ++ List.replicate after '\\' := by
        rw [← tails, escaped_cons, ← List.replicate_append_replicate, List.append_assoc]
        rfl
      obtain ⟨count, all⟩ := ih (Nat.succ_pos _) further
      exact ⟨count + 1, by rw [all, List.replicate_succ]⟩

/-- A text that its escaped form begins with has nothing that is escaped but backslashes at its
end. -/
theorem plain_of_unshifted {text : List Char} {after : Nat} (shown : ∀ c ∈ text, 0x20 ≤ c.toNat)
    (same : escaped text = text ++ List.replicate after '\\') :
    ∃ core count, text = core ++ List.replicate count '\\' ∧ ∀ c ∈ core, c ≠ '"' ∧ c ≠ '\\' := by
  induction text with
  | nil => exact ⟨[], 0, rfl, by simp⟩
  | cons c rest ih =>
      rw [escaped_cons, escape_of_shown (shown c List.mem_cons_self), List.cons_append] at same
      by_cases backslash : c = '\\'
      · rw [if_pos (Or.inr backslash), backslash] at same
        obtain ⟨_, tails⟩ := List.cons.inj same
        have shifted : List.replicate 1 '\\' ++ escaped rest =
            rest ++ List.replicate after '\\' := tails
        obtain ⟨count, all⟩ := backslashes_of_shifted Nat.one_pos shifted
        exact ⟨[], count + 1, by rw [backslash, all]; rfl, by simp⟩
      · by_cases quote : c = '"'
        · rw [if_pos (Or.inl quote)] at same
          exact absurd (List.cons.inj same).1.symm backslash
        · rw [if_neg (by simp [quote, backslash])] at same
          obtain ⟨core, count, split, plain⟩ := ih
            (fun other member => shown other (List.mem_cons_of_mem _ member)) (List.cons.inj same).2
          refine ⟨c :: core, count, by rw [split]; rfl, fun other member => ?_⟩
          rcases List.mem_cons.1 member with rfl | member
          · exact ⟨quote, backslash⟩
          · exact plain other member

/-- A text that stands in its escaped form is shifted against it by backslashes alone, as all other
characters of the escaped form are used up by the text itself. -/
theorem shifted_of_stands {text : List Char} (shown : ∀ c ∈ text, 0x20 ≤ c.toNat)
    (stands : text <:+: escaped text) : ∃ ahead behind,
      List.replicate ahead '\\' ++ text ++ List.replicate behind '\\' = escaped text := by
  obtain ⟨before, after, same⟩ := stands
  have kept := filter_escaped shown
  rw [← same, List.filter_append, List.filter_append] at kept
  have lengths := congrArg List.length kept
  rw [List.length_append, List.length_append] at lengths
  have noneBefore : before.filter (· != '\\') = [] := List.length_eq_zero_iff.1 (by omega)
  have noneAfter : after.filter (· != '\\') = [] := List.length_eq_zero_iff.1 (by omega)
  obtain ⟨ahead, rfl⟩ := eq_backslashes noneBefore
  obtain ⟨behind, rfl⟩ := eq_backslashes noneAfter
  exact ⟨ahead, behind, same⟩

theorem legible_of_stands {text : List Char} (stands : text <:+: escaped text) : Legible text := by
  have shown : ∀ c ∈ text, 0x20 ≤ c.toNat := fun c member => escaped_shown c (stands.subset member)
  obtain ⟨ahead, behind, same⟩ := shifted_of_stands shown stands
  obtain ⟨leading, all | ⟨c, rest, noBackslash, split⟩⟩ := leading_backslashes text
  · exact ⟨leading, [], 0, by simpa using all, by simp, by simp⟩
  · have inText : ∀ other ∈ c :: rest, other ∈ text := fun other member => by
      rw [split]
      exact List.mem_append_right _ member
    obtain ⟨count, single⟩ := escape_ends (shown c (inText c List.mem_cons_self))
    rw [split, escaped_append, escaped_backslashes, escaped_cons, single] at same
    have lined : List.replicate (ahead + leading) '\\' ++
        c :: (rest ++ List.replicate behind '\\') =
          List.replicate (leading + leading + count) '\\' ++ c :: escaped rest := by
      rw [← List.replicate_append_replicate, ← List.replicate_append_replicate]
      simpa only [List.append_assoc, List.cons_append, List.nil_append] using same
    have tails := behind_backslashes noBackslash lined
    obtain ⟨core, trailing, parts, plain⟩ := plain_of_unshifted
      (fun other member => shown other (inText other (List.mem_cons_of_mem _ member))) tails.symm
    refine ⟨leading, c :: core, trailing, ?_, fun other member => ?_, fun other member =>
      (plain other member).1⟩
    · rw [split, parts, List.append_assoc]
      rfl
    · rcases List.mem_cons.1 member with rfl | member
      · exact ⟨shown other (inText other List.mem_cons_self), noBackslash⟩
      · refine ⟨shown other (inText other (List.mem_cons_of_mem _ ?_)), (plain other member).2⟩
        rw [parts]
        exact List.mem_append_left _ member

/-- A text stands in its own escaped form exactly if it is legible. -/
theorem stands_iff_legible {text : List Char} : text <:+: escaped text ↔ Legible text :=
  ⟨legible_of_stands, Legible.stands⟩

instance (text : List Char) : Decidable (Legible text) :=
  decidable_of_iff (Text.occurs text (escaped text) = true)
    (Iff.trans Text.occurs_iff_infix stands_iff_legible)

/-! ### Arrays of texts -/

/-- The written form of texts that follow other items of an array. -/
def furtherTexts (texts : List String) : List Char :=
  texts.flatMap fun text => ',' :: '"' :: (escaped text.toList ++ ['"'])

theorem quote_chars (text : String) :
    (quote text).toList = '"' :: (escaped text.toList ++ ['"']) := String.toList_ofList

theorem compact_items_of_texts (first : String) (others : List String) :
    (compactItems ((first :: others).map text)).toList =
      '"' :: (escaped first.toList ++ '"' :: furtherTexts others) := by
  induction others generalizing first with
  | nil =>
      change (quote first).toList = _
      rw [quote_chars]
      rfl
  | cons next rest ih =>
      change (quote first ++ "," ++ compactItems ((next :: rest).map text)).toList = _
      rw [String.toList_append, String.toList_append, quote_chars, ih]
      simp only [furtherTexts, List.flatMap_cons, List.append_assoc, List.cons_append,
        List.nil_append]
      rfl

theorem compact_of_texts (first : String) (others : List String) :
    (array ((first :: others).map text)).compact.toList =
      '[' :: '"' :: (escaped first.toList ++ '"' :: (furtherTexts others ++ [']'])) := by
  change ("[" ++ compactItems ((first :: others).map text) ++ "]").toList = _
  rw [String.toList_append, String.toList_append, compact_items_of_texts]
  simp only [List.append_assoc, List.cons_append]
  rfl

theorem escaped_infix_compact {texts : List String} {listed : String} (member : listed ∈ texts) :
    escaped listed.toList <:+: (array (texts.map text)).compact.toList := by
  obtain ⟨first, others, rfl⟩ := List.exists_cons_of_ne_nil (List.ne_nil_of_mem member)
  rw [compact_of_texts]
  apply List.infix_cons
  apply List.infix_cons
  rcases List.mem_cons.1 member with rfl | member
  · exact List.infix_append_of_infix_left (List.infix_refl _)
  · apply List.infix_append_of_infix_right
    apply List.infix_cons
    apply List.infix_append_of_infix_left
    obtain ⟨before, after, rfl⟩ := List.append_of_mem member
    rw [furtherTexts, List.flatMap_append, List.flatMap_cons]
    apply List.infix_append_of_infix_right
    apply List.infix_append_of_infix_left
    apply List.infix_cons
    apply List.infix_cons
    exact List.infix_append_of_infix_left (List.infix_refl _)

/-- The characters between the texts of an array. -/
def listMarks : List Char := ['[', ',', ']']

theorem infix_further_texts {needle : List Char} {texts : List String} (noQuote : '"' ∉ needle)
    (stands : needle <:+: furtherTexts texts ++ [']']) :
    (∃ mark ∈ listMarks, needle <:+: [mark]) ∨
      ∃ other ∈ texts, needle <:+: escaped other.toList := by
  induction texts with
  | nil => exact Or.inl ⟨']', by decide, stands⟩
  | cons first rest ih =>
      have parts : furtherTexts (first :: rest) ++ [']'] =
          [','] ++ '"' :: (escaped first.toList ++ '"' :: (furtherTexts rest ++ [']'])) := by
        simp [furtherTexts]
      rw [parts, Text.infix_around_iff noQuote, Text.infix_around_iff noQuote] at stands
      rcases stands with comma | here | later
      · exact Or.inl ⟨',', by decide, comma⟩
      · exact Or.inr ⟨first, List.mem_cons_self, here⟩
      · rcases ih later with mark | ⟨other, member, within⟩
        · exact Or.inl mark
        · exact Or.inr ⟨other, List.mem_cons_of_mem _ member, within⟩

theorem stands_of_mark {mark : Char} {needle : List Char} (among : mark ∈ listMarks)
    (part : needle <:+: [mark]) : needle <:+: escaped needle := by
  have plain : ∀ mark ∈ listMarks, 0x20 ≤ mark.toNat ∧ mark ≠ '"' ∧ mark ≠ '\\' := by
    simp [listMarks]
  have same : escaped needle = needle := by
    apply escaped_of_plain
    intro c member
    rw [List.mem_singleton.1 (part.subset member)]
    exact plain mark among
  exact ⟨[], [], by rw [same, List.nil_append, List.append_nil]⟩

/-- A listed text without quotation marks stands in the written form exactly if it stands in the
escaped form of a listed text. -/
theorem infix_compact_iff {texts : List String} {listed : String} (member : listed ∈ texts)
    (noQuote : '"' ∉ listed.toList) :
    listed.toList <:+: (array (texts.map text)).compact.toList ↔
      ∃ other ∈ texts, listed.toList <:+: escaped other.toList := by
  constructor
  · intro stands
    obtain ⟨first, others, rfl⟩ := List.exists_cons_of_ne_nil (List.ne_nil_of_mem member)
    have ofMark : (∃ mark ∈ listMarks, listed.toList <:+: [mark]) →
        ∃ other ∈ first :: others, listed.toList <:+: escaped other.toList := by
      intro part
      obtain ⟨mark, among, part⟩ := part
      exact ⟨listed, member, stands_of_mark among part⟩
    rw [compact_of_texts, ← List.singleton_append, Text.infix_around_iff noQuote,
      Text.infix_around_iff noQuote] at stands
    rcases stands with bracket | here | later
    · exact ofMark ⟨'[', by decide, bracket⟩
    · exact ⟨first, List.mem_cons_self, here⟩
    · rcases infix_further_texts noQuote later with mark | ⟨other, among, within⟩
      · exact ofMark mark
      · exact ⟨other, List.mem_cons_of_mem _ among, within⟩
  · intro within
    obtain ⟨other, among, within⟩ := within
    exact within.trans (escaped_infix_compact among)

theorem further_texts_shown {texts : List String} {c : Char} (member : c ∈ furtherTexts texts) :
    0x20 ≤ c.toNat := by
  obtain ⟨listed, _, among⟩ := List.mem_flatMap.1 member
  rcases List.mem_cons.1 among with rfl | among
  · decide
  rcases List.mem_cons.1 among with rfl | among
  · decide
  rcases List.mem_append.1 among with within | last
  · exact escaped_shown c within
  · rw [List.mem_singleton.1 last]
    decide

theorem compact_texts_shown {texts : List String} {c : Char}
    (member : c ∈ (array (texts.map text)).compact.toList) : 0x20 ≤ c.toNat := by
  cases texts with
  | nil =>
      have brackets : (array ([].map text)).compact.toList = ['[', ']'] := rfl
      rw [brackets] at member
      rcases List.mem_cons.1 member with rfl | last
      · decide
      · rw [List.mem_singleton.1 last]
        decide
  | cons first others =>
      rw [compact_of_texts] at member
      simp only [List.mem_cons, List.mem_append, List.not_mem_nil, or_false] at member
      rcases member with rfl | rfl | within | rfl | further | rfl
      · decide
      · decide
      · exact escaped_shown c within
      · decide
      · exact further_texts_shown further
      · decide

end BomEvidence.Json
