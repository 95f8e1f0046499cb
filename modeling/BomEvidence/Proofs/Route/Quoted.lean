import BomEvidence.Proofs.Text.Spanning
import BomEvidence.Route
import Mathlib.Data.List.Infix

/-!
Quoted literals of code. A search from the left takes the first mark that another one follows on its
line and goes on behind the nearest such one. What it finds stands between the first and the second
mark of a line, between the third and the fourth, and so on, since a mark without a partner is the
last one of its line.
-/

namespace BomEvidence.Route

/-! ### Marks in pairs -/

/-- The first place with the second, the third with the fourth; a last one may stay alone. -/
def pairUp : List Nat → List (Nat × Nat)
  | opening :: closing :: places => (opening, closing) :: pairUp places
  | [_] => []
  | [] => []

def between (line : List Char) (places : Nat × Nat) : List Char :=
  (line.take places.2).drop (places.1 + 1)

def quotedIn (line : List Char) : List (List Char) :=
  (pairUp (line.findIdxs isQuote)).map (between line)

def quoted (code : List Char) : List (List Char) := (code.splitOn '\n').flatMap quotedIn

theorem between_marks (before segment rest : List Char) (mark : Char) :
    between ((before ++ mark :: segment) ++ rest)
      (before.length, (before ++ mark :: segment).length) = segment := by
  rw [between, List.take_left]
  simp

/-- The scan of a line. Without an open mark the marks that are to come are paired; with one, it is
paired with the next of them. -/
theorem literals_from_line {rest : List Char} (sameLine : '\n' ∉ rest) (done : List Char) :
    literalsFrom none rest =
        (pairUp (rest.findIdxs isQuote done.length)).map (between (done ++ rest)) ∧
      ∀ before mark segment, done = before ++ mark :: segment.reverse →
        literalsFrom (some segment) rest =
          (pairUp (before.length :: rest.findIdxs isQuote done.length)).map
            (between (done ++ rest)) := by
  induction rest generalizing done with
  | nil => exact ⟨rfl, fun _ _ _ _ => rfl⟩
  | cons c rest ih =>
      rw [List.mem_cons, not_or] at sameLine
      have next := ih sameLine.2 (done ++ [c])
      simp only [List.append_assoc, List.singleton_append, List.length_append,
        List.length_singleton] at next
      rcases next with ⟨closed, opened⟩
      constructor
      · rw [literalsFrom, List.findIdxs_cons]
        by_cases isMark : isQuote c = true
        · rw [if_pos isMark, if_pos isMark, opened done c [] rfl]
        · rw [if_neg isMark, if_neg isMark, closed]
      · rintro before mark segment rfl
        rw [literalsFrom, List.findIdxs_cons]
        by_cases isMark : isQuote c = true
        · rw [if_pos isMark, if_pos isMark, closed, pairUp, List.map_cons, between_marks]
        · have sameLineStill : ¬c = '\n' := Ne.symm sameLine.1
          rw [if_neg isMark, if_neg isMark, if_neg sameLineStill]
          apply opened before mark
          simp

theorem not_mem_line {code line : List Char} (member : line ∈ code.splitOn '\n') :
    '\n' ∉ line := by
  rw [List.splitOn_eq_splitOnP] at member
  induction code generalizing line with
  | nil =>
      rw [List.splitOnP_nil, List.mem_singleton] at member
      rw [member]
      exact List.not_mem_nil
  | cons c code ih =>
      rw [List.splitOnP_cons_eq_if_modifyHead] at member
      split at member
      · rcases List.mem_cons.1 member with rfl | later
        · exact List.not_mem_nil
        · exact ih later
      · rename_i other
        rcases List.exists_cons_of_ne_nil (List.splitOnP_ne_nil (· == '\n') code) with
          ⟨head, tail, lines⟩
        rw [lines] at ih member
        rcases List.mem_cons.1 member with rfl | later
        · rw [List.mem_cons, not_or]
          constructor
          · intro same
            exact other (beq_iff_eq.2 same.symm)
          · exact ih List.mem_cons_self
        · exact ih (List.mem_cons_of_mem _ later)

/-- A scan goes line by line, since no mark stays open at the end of a line. -/
theorem literals_from_lines (code : List Char) (opened : Option (List Char)) (head : List Char)
    (tail : List (List Char)) (lines : code.splitOn '\n' = head :: tail) :
    literalsFrom opened code = literalsFrom opened head ++ tail.flatMap (literalsFrom none) := by
  rw [List.splitOn_eq_splitOnP] at lines
  induction code generalizing opened head tail with
  | nil =>
      cases lines
      cases opened <;> rfl
  | cons c code ih =>
      rcases List.exists_cons_of_ne_nil (List.splitOnP_ne_nil (· == '\n') code) with
        ⟨first, others, rest⟩
      rw [List.splitOnP_cons_eq_if_modifyHead, rest] at lines
      by_cases ends : c = '\n'
      · subst ends
        rw [if_pos (by rfl)] at lines
        cases lines
        have later := ih none first others rest
        cases opened with
        | none => exact later
        | some segment => exact later
      · rw [if_neg (by rwa [beq_iff_eq]), List.modifyHead_cons] at lines
        rcases List.cons.inj lines with ⟨rfl, rfl⟩
        cases opened with
        | none =>
            rw [literalsFrom, literalsFrom]
            exact ih _ first others rest
        | some segment =>
            rw [literalsFrom, literalsFrom]
            split
            · rw [ih none first others rest, List.cons_append]
            · exact ih _ first others rest

theorem literals_from_eq (code : List Char) : literalsFrom none code = quoted code := by
  have own : ∀ line ∈ code.splitOn '\n', literalsFrom none line = quotedIn line := by
    intro line member
    exact (literals_from_line (not_mem_line member) []).1
  rcases List.exists_cons_of_ne_nil (List.splitOn_ne_nil '\n' code) with ⟨head, tail, lines⟩
  calc literalsFrom none code
      = (code.splitOn '\n').flatMap (literalsFrom none) := by
        rw [literals_from_lines code none head tail lines, lines, List.flatMap_cons]
    _ = quoted code := List.flatMap_congr own

/-! ### A search from the left -/

def Quotes (text before literal after : List Char) : Prop :=
  ∃ opening closing, isQuote opening = true ∧ isQuote closing = true ∧ '\n' ∉ literal ∧
    text = before ++ opening :: (literal ++ closing :: after)

/-- The first place where a literal is quoted, and the shortest literal of this place. -/
structure FirstMatch (text before literal after : List Char) : Prop where
  quotes : Quotes text before literal after
  leftmost : ∀ other longer rest, Quotes text other longer rest → before.length ≤ other.length
  shortest : ∀ longer rest, Quotes text before longer rest → literal.length ≤ longer.length

/-- The literals that are found one after the other, each in what the one before left. -/
inductive Matches : List Char → List (List Char) → Prop where
  | none {text : List Char} (no : ∀ before literal after, ¬Quotes text before literal after) :
      Matches text []
  | next {text before literal after : List Char} {found : List (List Char)}
      (first : FirstMatch text before literal after) (more : Matches after found) :
      Matches text (literal :: found)

theorem not_quote_of_line_feed : isQuote '\n' = false := by decide

theorem mark_behind {segment rest before after : List Char} {mark : Char}
    (unmarked : ∀ c ∈ segment, isQuote c = false) (isMark : isQuote mark = true)
    (same : segment ++ rest = before ++ mark :: after) :
    ∃ left, before = segment ++ left ∧ rest = left ++ mark :: after := by
  induction segment generalizing before with
  | nil => exact ⟨before, rfl, same⟩
  | cons c segment ih =>
      cases before with
      | nil =>
          have equal := (List.cons.inj same).1
          have other := unmarked c List.mem_cons_self
          rw [equal, isMark] at other
          cases other
      | cons b before =>
          rcases List.cons.inj same with ⟨rfl, later⟩
          rcases ih (fun d member => unmarked d (List.mem_cons_of_mem _ member)) later with
            ⟨left, rfl, behind⟩
          exact ⟨left, rfl, behind⟩

theorem quotes_append {skipped text before literal after : List Char} :
    Quotes (skipped ++ text) (skipped ++ before) literal after ↔
      Quotes text before literal after := by
  simp only [Quotes, List.append_assoc, List.append_cancel_left_eq]

/-- A search passes over what no literal begins in. -/
theorem Matches.behind {skipped text : List Char} {found : List (List Char)}
    (matched : Matches text found)
    (apart : ∀ before literal after, Quotes (skipped ++ text) before literal after →
      skipped <+: before) : Matches (skipped ++ text) found := by
  cases matched with
  | none no =>
      refine .none ?_
      intro before literal after quotes
      rcases apart before literal after quotes with ⟨left, rfl⟩
      exact no left literal after (quotes_append.1 quotes)
  | @next _ before literal after found first more =>
      have same : FirstMatch (skipped ++ text) (skipped ++ before) literal after := by
        refine ⟨quotes_append.2 first.quotes, ?_, ?_⟩
        · intro other longer rest quotes
          rcases apart other longer rest quotes with ⟨left, rfl⟩
          have least := first.leftmost left longer rest (quotes_append.1 quotes)
          simp only [List.length_append]
          omega
        · intro longer rest quotes
          exact first.shortest longer rest (quotes_append.1 quotes)
      exact .next same more

section Open

variable {mark : Char} {segment code : List Char} (unmarked : ∀ c ∈ segment, isQuote c = false)

include unmarked

theorem first_match_of_mark (isMark : isQuote mark = true) (sameLine : '\n' ∉ segment)
    {closing : Char} (closes : isQuote closing = true) :
    FirstMatch (mark :: (segment ++ closing :: code)) [] segment code := by
  refine ⟨⟨mark, closing, isMark, closes, sameLine, rfl⟩, fun _ _ _ _ => Nat.zero_le _, ?_⟩
  rintro longer rest ⟨opening, other, _, isOther, _, same⟩
  rcases mark_behind unmarked isOther (List.cons.inj same).2 with ⟨left, rfl, _⟩
  simp only [List.length_append]
  omega

theorem not_quotes_of_end (before literal after : List Char) :
    ¬Quotes (mark :: segment) before literal after := by
  rintro ⟨opening, closing, isOpening, isClosing, _, same⟩
  have without : ∀ {front back : List Char} {other : Char}, isQuote other = true →
      segment ≠ front ++ other :: back := by
    intro front back other isOther equal
    rw [← List.append_nil segment] at equal
    rcases mark_behind unmarked isOther equal with ⟨left, _, nothing⟩
    exact List.append_ne_nil_of_right_ne_nil left (List.cons_ne_nil _ _) nothing.symm
  cases before with
  | nil => exact without isClosing (List.cons.inj same).2
  | cons b before => exact without isOpening (List.cons.inj same).2

theorem quotes_behind_line (before literal after : List Char)
    (quotes : Quotes ((mark :: segment ++ ['\n']) ++ code) before literal after) :
    (mark :: segment ++ ['\n']) <+: before := by
  have unmarkedLine : ∀ c ∈ segment ++ ['\n'], isQuote c = false := by
    intro c member
    rcases List.mem_append.1 member with inSegment | ends
    · exact unmarked c inSegment
    · rw [List.mem_singleton.1 ends]
      exact not_quote_of_line_feed
  rcases quotes with ⟨opening, closing, isOpening, isClosing, sameLine, same⟩
  cases before with
  | nil =>
      rcases mark_behind unmarkedLine isClosing (List.cons.inj same).2 with ⟨left, rfl, _⟩
      apply absurd _ sameLine
      simp
  | cons b before =>
      rcases List.cons.inj same with ⟨rfl, later⟩
      rcases mark_behind unmarkedLine isOpening later with ⟨left, rfl, _⟩
      exact ⟨left, rfl⟩

end Open

/-- A scan is such a search. With an open mark it has yet to find the other end of the literal that
this mark would begin. -/
theorem matches_literals_from (code : List Char) :
    Matches code (literalsFrom none code) ∧
      ∀ mark segment, isQuote mark = true → (∀ c ∈ segment, isQuote c = false) →
        '\n' ∉ segment → Matches (mark :: (segment.reverse ++ code))
          (literalsFrom (some segment) code) := by
  induction code with
  | nil =>
      constructor
      · refine .none ?_
        rintro before literal after ⟨_, _, _, _, _, same⟩
        exact List.append_ne_nil_of_right_ne_nil before (List.cons_ne_nil _ _) same.symm
      · intro mark segment isMark unmarked _
        rw [List.append_nil]
        refine .none (not_quotes_of_end ?_)
        intro c member
        exact unmarked c (List.mem_reverse.1 member)
  | cons c code ih =>
      rcases ih with ⟨closed, opened⟩
      constructor
      · rw [literalsFrom]
        by_cases isMark : isQuote c = true
        · rw [if_pos isMark]
          exact opened c [] isMark (by simp) (by simp)
        · rw [if_neg isMark]
          change Matches ([c] ++ code) _
          apply closed.behind
          rintro before literal after ⟨opening, _, isOpening, _, _, same⟩
          have unmarked : ∀ d ∈ [c], isQuote d = false := by
            intro d member
            rw [List.mem_singleton.1 member]
            exact Bool.not_eq_true _ ▸ isMark
          rcases mark_behind unmarked isOpening same with ⟨left, rfl, _⟩
          exact ⟨left, rfl⟩
      · intro mark segment isMark unmarked sameLine
        have unmarkedBack : ∀ d ∈ segment.reverse, isQuote d = false := by
          intro d member
          exact unmarked d (List.mem_reverse.1 member)
        have sameLineBack : '\n' ∉ segment.reverse := by
          rw [List.mem_reverse]
          exact sameLine
        rw [literalsFrom]
        split
        · rename_i closes
          exact .next (first_match_of_mark unmarkedBack isMark sameLineBack closes) closed
        · rename_i notMark
          split
          · rename_i ends
            have passed : Matches ((mark :: segment.reverse ++ ['\n']) ++ code)
                (literalsFrom none code) := closed.behind (quotes_behind_line unmarkedBack)
            rw [ends]
            simpa using passed
          · rename_i goesOn
            have longer := opened mark (c :: segment) isMark
              (by
                intro d member
                rcases List.mem_cons.1 member with rfl | earlier
                · exact Bool.not_eq_true _ ▸ notMark
                · exact unmarked d earlier)
              (by
                rw [List.mem_cons, not_or]
                exact ⟨Ne.symm goesOn, sameLine⟩)
            simpa using longer

end BomEvidence.Route
