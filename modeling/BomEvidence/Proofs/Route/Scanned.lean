import BomEvidence.Proofs.Route.Quoted

/-!
Routes of code outside Ruby. A language may ask for a word or an annotation before a code is
scanned; of the quoted literals it keeps those that look like routes to it.
-/

namespace BomEvidence.Route

/-! ### What the languages ask for -/

def Searched : Language → List Char → Prop
  | .java, code | .jar, code =>
      code.head? = some '@' ∧ ("Mapping".toList <:+: code ∨ "Path".toList <:+: code) ∧ '(' ∈ code
  | .javascript, code | .typescript, code => "app.".toList <:+: code ∨ "route".toList <:+: code
  | _, _ => True

/-- A slash, and another beginning than that of a relative path or of an annotation. -/
def PathLike (literal : List Char) : Prop :=
  '/' ∈ literal ∧ literal.head? ≠ some '.' ∧ literal.head? ≠ some '@'

def MediaTyped (literal : List Char) : Prop :=
  "application/".toList <+: literal ∨ "text/".toList <+: literal

def Accepted : Language → List Char → Prop
  | .java, literal | .jar, literal => PathLike literal
  | .javascript, literal | .typescript, literal => PathLike literal ∧ ¬MediaTyped literal
  | _, literal => 2 < literal.length ∧ '/' ∈ literal

/-! ### The tests of the scan -/

theorem contains_char_iff {text needle : String} {c : Char} (single : needle.toList = [c]) :
    Text.contains text needle = true ↔ c ∈ text.toList := by
  rw [Text.contains, single, Text.occurs_iff_infix, List.singleton_infix_iff]

theorem starts_with_char_iff {text mark : String} {c : Char} (single : mark.toList = [c]) :
    Text.startsWith text mark = true ↔ text.toList.head? = some c := by
  rw [Text.startsWith, single, List.isPrefixOf_iff_prefix]
  cases text.toList with
  | nil => simp
  | cons d rest => simp [eq_comm]

theorem is_path_iff {literal : String} : isPath literal = true ↔ PathLike literal.toList := by
  have slash : Text.contains literal "/" = true ↔ '/' ∈ literal.toList := contains_char_iff rfl
  have relative : Text.startsWith literal "." = true ↔ literal.toList.head? = some '.' :=
    starts_with_char_iff rfl
  have annotation : Text.startsWith literal "@" = true ↔ literal.toList.head? = some '@' :=
    starts_with_char_iff rfl
  have nonempty : '/' ∈ literal.toList → literal ≠ "" := by
    rintro member rfl
    exact List.not_mem_nil member
  simp only [isPath, PathLike, Bool.and_eq_true, Bool.not_eq_true', ← Bool.not_eq_true, bne_iff_ne,
    slash, relative, annotation]
  constructor
  · rintro ⟨⟨⟨_, noDot⟩, member⟩, noAt⟩
    exact ⟨member, noDot, noAt⟩
  · rintro ⟨member, noDot, noAt⟩
    exact ⟨⟨⟨nonempty member, noDot⟩, member⟩, noAt⟩

theorem is_media_type_iff {literal : String} :
    isMediaType literal = true ↔ MediaTyped literal.toList := by
  rw [isMediaType, MediaTyped, Bool.or_eq_true]
  exact or_congr List.isPrefixOf_iff_prefix List.isPrefixOf_iff_prefix

theorem is_long_path_iff {literal : String} :
    isLongPath literal = true ↔ 2 < literal.toList.length ∧ '/' ∈ literal.toList := by
  have slash : Text.contains literal "/" = true ↔ '/' ∈ literal.toList := contains_char_iff rfl
  rw [isLongPath, Bool.and_eq_true, decide_eq_true_iff, slash, String.length_toList]

def searches : Language → String → Bool
  | .java | .jar => isMapping
  | .javascript | .typescript => mentionsRouter
  | _ => fun _ => true

def keeps : Language → String → Bool
  | .java | .jar => isPath
  | .javascript | .typescript => fun literal => isPath literal && !isMediaType literal
  | _ => isLongPath

theorem searches_iff {language : Language} {code : String} :
    searches language code = true ↔ Searched language code.toList := by
  have mapping : isMapping code = true ↔ Searched .java code.toList := by
    rw [isMapping, Searched, Bool.and_eq_true, Bool.and_eq_true, Bool.or_eq_true, and_assoc]
    exact and_congr (starts_with_char_iff rfl)
      (and_congr (or_congr Text.occurs_iff_infix Text.occurs_iff_infix) (contains_char_iff rfl))
  have router : mentionsRouter code = true ↔ Searched .javascript code.toList := by
    rw [mentionsRouter, Searched, Bool.or_eq_true]
    exact or_congr Text.occurs_iff_infix Text.occurs_iff_infix
  cases language with
  | java | jar => exact mapping
  | javascript | typescript => exact router
  | python | php | ruby | c | cpp | swift => exact iff_of_true rfl trivial

theorem keeps_iff {language : Language} {literal : String} :
    keeps language literal = true ↔ Accepted language literal.toList := by
  cases language with
  | java | jar => exact is_path_iff
  | javascript | typescript =>
      simp only [keeps, Accepted, Bool.and_eq_true, Bool.not_eq_true', ← Bool.not_eq_true,
        is_path_iff, is_media_type_iff]
  | python | php | ruby | c | cpp | swift => exact is_long_path_iff

instance {language : Language} : DecidablePred (Accepted language) := fun literal =>
  decidable_of_iff (keeps language (String.ofList literal) = true) (by
    rw [keeps_iff, String.toList_ofList])

/-! ### The scan -/

theorem extract_eq {language : Language} (notRuby : language ≠ .ruby) (code : String) :
    extract language code =
      if searches language code then (literals code).filter (keeps language) else [] := by
  rw [extract.eq_def]
  split
  · rename_i empty
    subst empty
    cases searches language "" <;> rfl
  · cases language with
    | ruby => exact absurd rfl notRuby
    | java | jar | javascript | typescript | python | php | c | cpp | swift => rfl

/-- Each route is a literal that a search from the left finds, and that stands between two marks of
one line. -/
theorem extract_scans (language : Language) (code : String) (notRuby : language ≠ .ruby) :
    Matches code.toList (quoted code.toList) ∧
      (Searched language code.toList →
        extract language code =
          ((quoted code.toList).filter (Accepted language)).map String.ofList) ∧
      (¬Searched language code.toList → extract language code = []) := by
  have scan : literalsFrom none code.toList = quoted code.toList := literals_from_eq code.toList
  rw [extract_eq notRuby]
  refine ⟨scan ▸ (matches_literals_from code.toList).1, ?_, ?_⟩
  · intro searched
    rw [if_pos (searches_iff.2 searched), literals, scan, List.filter_map]
    congr 1
    apply List.filter_congr
    intro literal _
    rw [Bool.eq_iff_iff, Function.comp_apply, keeps_iff, String.toList_ofList, decide_eq_true_iff]
  · intro notSearched
    rw [if_neg (fun searches => notSearched (searches_iff.1 searches))]

def homeMapping : String := "@GetMapping(value = \x7b \"/\", 'a', \"/home\" \x7d)"

theorem extract_scans_home :
    Language.java ≠ .ruby ∧ extract .java homeMapping = ["/", "/home"] := by
  have other : Language.java ≠ .ruby := by decide
  have scanned := extract_scans .java homeMapping other
  refine ⟨other, ?_⟩
  rw [scanned.2.1 (searches_iff.1 (by decide))]
  decide

end BomEvidence.Route
