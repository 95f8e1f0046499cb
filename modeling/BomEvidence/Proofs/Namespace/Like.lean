import BomEvidence.Namespace.Like

/-!
What the pattern of a needle matches. Every character of the needle is read back as itself,
whether it was escaped or not, so that the pattern finds the texts that contain the needle up to
the case of ASCII letters. A character with the code zero ends the pattern where it stands: the
closing percent sign is cut off with it, and what is left is looked for at the end of the text.
-/

namespace BomEvidence.Like

def NulFree (text : List Char) : Prop := ∀ c ∈ text, c.toNat ≠ 0

instance (text : List Char) : Decidable (NulFree text) :=
  List.decidableBAll (fun c : Char => c.toNat ≠ 0) text

def SameLetters (first second : List Char) : Prop :=
  first.map Char.toLower = second.map Char.toLower

/-- A text contains a needle, up to the case of ASCII letters. -/
def Contains (needle text : List Char) : Prop :=
  ∃ before middle after, text = before ++ middle ++ after ∧ SameLetters middle needle

def EndsWith (needle text : List Char) : Prop :=
  ∃ before middle, text = before ++ middle ∧ SameLetters middle needle

/-! ### Reading a pattern -/

theorem tokens_percent (rest : List Char) :
    tokens? ('%' :: rest) = (tokens? rest).map (.anyText :: ·) := by
  cases rest with
  | nil => rfl
  | cons next rest => simp [tokens?, escapeChar]

theorem tokens_escaped (c : Char) (rest : List Char) :
    tokens? (escapeChar :: c :: rest) = (tokens? rest).map (.char c :: ·) := by
  simp [tokens?]

theorem tokens_plain {c : Char} (plain : ¬(c = '%' ∨ c = '_' ∨ c = escapeChar)) (rest : List Char) :
    tokens? (c :: rest) = (tokens? rest).map (.char c :: ·) := by
  simp only [not_or] at plain
  obtain ⟨percent, underscore, escaping⟩ := plain
  cases rest with
  | nil => simp [tokens?, percent, underscore, escaping]
  | cons next rest => simp [tokens?, percent, underscore, escaping]

theorem escape_cons (c : Char) (text : List Char) :
    escape (c :: text) =
      (if c = '%' ∨ c = '_' ∨ c = escapeChar then [escapeChar, c] else [c]) ++ escape text := by
  unfold escape
  rw [List.flatMap_cons]
  simp only [Bool.or_eq_true, decide_eq_true_eq, or_assoc]

/-- Escaping is undone by reading: each character stands for itself. -/
theorem tokens_escape (text rest : List Char) :
    tokens? (escape text ++ rest) = (tokens? rest).map (text.map .char ++ ·) := by
  induction text with
  | nil =>
      cases read : tokens? rest with
      | none => simp [escape, read]
      | some parts => simp [escape, read]
  | cons c text ih =>
      have joined : (tokens? (escape text ++ rest)).map (.char c :: ·) =
          (tokens? rest).map ((c :: text).map .char ++ ·) := by
        rw [ih, Option.map_map]
        rfl
      rw [escape_cons, ← joined]
      split
      · exact tokens_escaped c _
      · rename_i plain
        exact tokens_plain plain _

/-! ### Texts that end early -/

theorem up_to_nul_cons {c : Char} (seen : c.toNat ≠ 0) (rest : List Char) :
    upToNul (c :: rest) = c :: upToNul rest := by
  simp [upToNul, seen]

theorem up_to_nul_append {text : List Char} (free : NulFree text) (rest : List Char) :
    upToNul (text ++ rest) = text ++ upToNul rest :=
  List.takeWhile_append_of_pos fun c member => decide_eq_true (free c member)

theorem up_to_nul_of_free {text : List Char} (free : NulFree text) : upToNul text = text := by
  have whole := up_to_nul_append free []
  rw [List.append_nil] at whole
  exact whole.trans (List.append_nil text)

/-- A needle is cut where its first character with the code zero stands, and what is behind
that is lost as well. -/
theorem up_to_nul_escape (text rest : List Char) :
    upToNul (escape text ++ rest) =
      if NulFree text then escape text ++ upToNul rest else escape (upToNul text) := by
  induction text with
  | nil => simp [escape, NulFree]
  | cons c text ih =>
      have parts : NulFree (c :: text) ↔ c.toNat ≠ 0 ∧ NulFree text := List.forall_mem_cons
      by_cases seen : c.toNat = 0
      · have plain : ¬(c = '%' ∨ c = '_' ∨ c = escapeChar) := by
          intro special
          rcases special with rfl | rfl | rfl <;> cases seen
        have cut : ¬NulFree (c :: text) := fun free => (parts.1 free).1 seen
        rw [if_neg cut, escape_cons, if_neg plain]
        simp [upToNul, seen, escape]
      · have head : NulFree (if c = '%' ∨ c = '_' ∨ c = escapeChar then [escapeChar, c] else [c]) := by
          have backslash : escapeChar.toNat ≠ 0 := by decide
          split <;> simp [NulFree, seen, backslash]
        rw [escape_cons, List.append_assoc, up_to_nul_append head, ih, up_to_nul_cons seen,
          escape_cons]
        simp only [parts, ne_eq, seen, not_false_eq_true, true_and]
        by_cases free : NulFree text
        · rw [if_pos free, if_pos free, List.append_assoc]
        · rw [if_neg free, if_neg free]

/-! ### Matching -/

theorem some_end_iff {test : List Char → Bool} {text : List Char} :
    someEnd test text = true ↔ ∃ before after, text = before ++ after ∧ test after = true := by
  induction text with
  | nil =>
      constructor
      · intro passes
        exact ⟨[], [], rfl, passes⟩
      · intro found
        obtain ⟨before, after, same, passes⟩ := found
        obtain ⟨rfl, rfl⟩ := List.nil_eq_append_iff.1 same
        exact passes
  | cons c text ih =>
      rw [someEnd, Bool.or_eq_true, ih]
      constructor
      · intro either
        rcases either with passes | ⟨before, after, same, passes⟩
        · exact ⟨[], c :: text, rfl, passes⟩
        · exact ⟨c :: before, after, by rw [same, List.cons_append], passes⟩
      · intro found
        obtain ⟨before, after, same, passes⟩ := found
        cases before with
        | nil => exact Or.inl (same ▸ passes)
        | cons head before =>
            rw [List.cons_append, List.cons.injEq] at same
            exact Or.inr ⟨before, after, same.2, passes⟩

theorem matches_chars {chars text : List Char} {rest : List Token} :
    matchesTokens (chars.map .char ++ rest) text = true ↔
      ∃ middle after, text = middle ++ after ∧ SameLetters middle chars ∧
        matchesTokens rest after = true := by
  induction chars generalizing text with
  | nil =>
      constructor
      · intro passes
        exact ⟨[], text, rfl, rfl, passes⟩
      · intro found
        obtain ⟨middle, after, rfl, same, passes⟩ := found
        have nothing : middle = [] := List.map_eq_nil_iff.1 same
        rw [nothing]
        exact passes
  | cons c chars ih =>
      cases text with
      | nil =>
          constructor
          · intro passes
            cases passes
          · intro found
            obtain ⟨middle, after, same, letters, _⟩ := found
            obtain ⟨rfl, rfl⟩ := List.nil_eq_append_iff.1 same
            cases letters
      | cons d text =>
          have step : matchesTokens ((c :: chars).map .char ++ rest) (d :: text) =
              (sameLetter c d && matchesTokens (chars.map .char ++ rest) text) := rfl
          rw [step, Bool.and_eq_true, ih]
          constructor
          · intro both
            obtain ⟨letter, middle, after, rfl, letters, passes⟩ := both
            refine ⟨d :: middle, after, rfl, ?_, passes⟩
            exact List.cons_eq_cons.2 ⟨(of_decide_eq_true letter).symm, letters⟩
          · intro found
            obtain ⟨middle, after, same, letters, passes⟩ := found
            cases middle with
            | nil => cases letters
            | cons head middle =>
                obtain ⟨rfl, rfl⟩ := List.cons_eq_cons.1 same
                obtain ⟨letter, letters⟩ := List.cons_eq_cons.1 letters
                exact ⟨decide_eq_true letter.symm, middle, after, rfl, letters, passes⟩

theorem matches_any_text (text : List Char) : matchesTokens [.anyText] text = true :=
  some_end_iff.2 ⟨text, [], (List.append_nil text).symm, rfl⟩

theorem matches_containing {needle : String} (free : NulFree needle.toList) {text : String} :
    matches? (containing needle) text = true ↔ Contains needle.toList (upToNul text.toList) := by
  have pattern : upToNul (containing needle).toList = '%' :: (escape needle.toList ++ ['%']) := by
    rw [containing, String.toList_ofList, up_to_nul_cons (by decide), up_to_nul_escape, if_pos free]
    rfl
  have parts : tokens? (upToNul (containing needle).toList) =
      some (.anyText :: (needle.toList.map .char ++ [.anyText])) := by
    rw [pattern, tokens_percent, tokens_escape]
    rfl
  unfold matches? Contains
  rw [parts]
  dsimp only
  rw [matchesTokens, some_end_iff]
  simp only [matches_chars, matches_any_text, and_true]
  constructor
  · intro found
    obtain ⟨before, _, same, middle, after, rfl, letters⟩ := found
    exact ⟨before, middle, after, same.trans (List.append_assoc ..).symm, letters⟩
  · intro found
    obtain ⟨before, middle, after, same, letters⟩ := found
    exact ⟨before, middle ++ after, same.trans (List.append_assoc ..), middle, after, rfl, letters⟩

/-- The pattern of a needle that is cut finds what is left of the needle at the end of a text. -/
theorem matches_containing_cut {needle : String} (cut : ¬NulFree needle.toList) {text : String} :
    matches? (containing needle) text = true ↔
      EndsWith (upToNul needle.toList) (upToNul text.toList) := by
  have pattern : upToNul (containing needle).toList = '%' :: escape (upToNul needle.toList) := by
    rw [containing, String.toList_ofList, up_to_nul_cons (by decide), up_to_nul_escape, if_neg cut]
  have parts : tokens? (upToNul (containing needle).toList) =
      some (.anyText :: ((upToNul needle.toList).map .char ++ [])) := by
    have read := tokens_escape (upToNul needle.toList) []
    rw [List.append_nil] at read
    rw [pattern, tokens_percent, read]
    rfl
  unfold matches? EndsWith
  rw [parts]
  dsimp only
  rw [matchesTokens, some_end_iff]
  simp only [matches_chars, matchesTokens, List.isEmpty_iff]
  constructor
  · intro found
    obtain ⟨before, _, same, middle, after, rfl, letters, rfl⟩ := found
    exact ⟨before, middle, same.trans (by rw [List.append_nil]), letters⟩
  · intro found
    obtain ⟨before, middle, same, letters⟩ := found
    exact ⟨before, middle, same, middle, [], (List.append_nil _).symm, letters, rfl⟩

end BomEvidence.Like
