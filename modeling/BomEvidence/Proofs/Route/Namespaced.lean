import BomEvidence.Proofs.Text.Joined
import BomEvidence.Route

/-!
Routes of Ruby code that has a namespace, a verb and a path. The words `namespace` and the verbs are
found wherever a word ends in them, the last place first, and a later verb of the list wins over an
earlier one. The namespace and the path are therefore joined to the route, unless the namespace
itself ends in `namespace` or in a verb that wins over the one behind it.
-/

namespace BomEvidence.Route

def namespaced (space verb path : String) : String :=
  "namespace " ++ space ++ " " ++ verb ++ " \"" ++ path ++ "\""

/-- A namespace or a path as one word, which is neither quoted nor an address. -/
structure IsSegment (word : String) : Prop where
  nonempty : word ≠ ""
  unspaced : ' ' ∉ word.toList
  unquoted : ∀ c ∈ word.toList, isQuote c = false
  whole : ¬"...".toList <:+: word.toList
  noAddress : ¬"http".toList <:+: word.toList
  notHidden : word.toList.head? ≠ some '.'

/-- The verbs that win over a verb. -/
def outranking (verb : String) : List String := (verbs.dropWhile (· != verb)).drop 1

def leadingWord (space verb : String) : String :=
  if Text.endsWith space "namespace" then verb else space

def trailingWord (space verb path : String) : String :=
  if (outranking verb).any (Text.endsWith space) then verb else path

/-! ### The last place of a keyword -/

section Words

variable {keyword word rest : List Char} (one : ' ' ∉ keyword) (unspaced : ' ' ∉ word)

include one unspaced

theorem drop_keyword : Text.dropStart? (keyword ++ [' ']) (word ++ ' ' :: rest) =
    if keyword = word then some rest else none := by
  split
  · rename_i same
    rw [Text.drop_start_eq_some, same, List.append_assoc]
    rfl
  · rename_i other
    rw [Option.eq_none_iff_forall_ne_some]
    intro left dropped
    have same := Text.drop_start_eq_some.1 dropped
    rw [List.append_assoc, List.singleton_append] at same
    rcases List.append_eq_append_iff.1 same with ⟨more, longer, behind⟩ | ⟨more, longer, behind⟩
    · cases more with
      | nil => exact other (by rw [longer, List.append_nil])
      | cons c more =>
          apply one
          rw [longer, (List.cons.inj behind).1]
          exact List.mem_append_right word List.mem_cons_self
    · cases more with
      | nil => exact other (by rw [longer, List.append_nil])
      | cons c more =>
          apply unspaced
          rw [longer, (List.cons.inj behind).1]
          exact List.mem_append_right keyword List.mem_cons_self

/-- A keyword is looked for behind a word first, and then at its end. -/
theorem after_keyword : Text.afterLast? (keyword ++ [' ']) (word ++ ' ' :: rest) =
    (Text.afterLast? (keyword ++ [' ']) rest).or (if keyword <:+ word then some rest else none) := by
  have step : ∀ c text, Text.afterLast? (keyword ++ [' ']) (c :: text) =
      (Text.afterLast? (keyword ++ [' ']) text).or
        (Text.dropStart? (keyword ++ [' ']) (c :: text)) := by
    intro c text
    rw [Text.afterLast?]
    cases Text.afterLast? (keyword ++ [' ']) text <;> rfl
  induction word with
  | nil =>
      have dropped := @drop_keyword keyword [] rest one List.not_mem_nil
      rw [List.nil_append] at dropped ⊢
      rw [step, dropped]
      simp only [List.suffix_nil]
  | cons c word ih =>
      have dropped := @drop_keyword keyword (c :: word) rest one unspaced
      rw [List.cons_append] at dropped ⊢
      rw [List.mem_cons, not_or] at unspaced
      rw [step, ih unspaced.2, dropped, Option.or_assoc]
      simp only [List.suffix_cons_iff]
      by_cases ends : keyword <:+ word
      · simp only [ends, or_true, if_true, Option.some_or]
      · simp only [ends, or_false, if_false, Option.none_or]

end Words

theorem namespaced_chars (space verb path : String) : (namespaced space verb path).toList =
    "namespace".toList ++ ' ' ::
      (space.toList ++ ' ' :: (verb.toList ++ ' ' :: ('"' :: (path.toList ++ ['"'])))) := by
  change ("namespace " ++ space ++ " " ++ verb ++ " \"" ++ path ++ "\"").toList = _
  simp only [String.toList_append, List.append_assoc]
  rfl

theorem before_blank {word : String} (unspaced : ' ' ∉ word.toList) (rest : List Char) :
    Text.before (String.ofList (word.toList ++ ' ' :: rest)) " " = word := by
  have parts : String.ofList (word.toList ++ ' ' :: rest) = word ++ " " ++ String.ofList rest := by
    rw [← String.toList_inj]
    simp
  have clear : Text.Clear " ".toList word.toList := Text.Clear.of_first unspaced
  rw [parts, Text.before_mark clear]

/-- The word behind a keyword: the quoted path if the verb ends in the keyword, or else the verb if
the namespace does, or else the namespace if the word in front of it does. -/
theorem word_after_keyword {keyword space verb path : String} (one : ' ' ∉ keyword.toList)
    (spaceWord : ' ' ∉ space.toList) (verbWord : ' ' ∉ verb.toList) (pathWord : ' ' ∉ path.toList) :
    wordAfterLast? (namespaced space verb path) (keyword ++ " ") =
      ((if Text.endsWith verb keyword then some ("\"" ++ path ++ "\"") else none).or
        (if Text.endsWith space keyword then some verb else none)).or
        (if Text.endsWith "namespace" keyword then some space else none) := by
  have ends : ∀ word : String, Text.endsWith word keyword = true ↔
      keyword.toList <:+ word.toList := fun _ => List.isSuffixOf_iff_suffix
  have quotedWord : ' ' ∉ '"' :: (path.toList ++ ['"']) := by
    simpa using pathWord
  have last : Text.afterLast? (keyword.toList ++ [' ']) ('"' :: (path.toList ++ ['"'])) = none :=
    Text.after_last_free (Text.free_of_absent (List.mem_append_right _ List.mem_cons_self) quotedWord)
  have quoted : Text.before (String.ofList ('"' :: (path.toList ++ ['"']))) " " =
      "\"" ++ path ++ "\"" := by
    have unbroken : ' ' ∉ (String.ofList ('"' :: (path.toList ++ ['"']))).toList := by
      rwa [String.toList_ofList]
    have free : ¬" ".toList <:+: (String.ofList ('"' :: (path.toList ++ ['"']))).toList :=
      Text.free_of_absent List.mem_cons_self unbroken
    rw [Text.before_free free, ← String.toList_inj]
    simp
  have marked : (keyword ++ " ").toList = keyword.toList ++ [' '] := String.toList_append
  rw [wordAfterLast?, Text.afterLast, marked, namespaced_chars, after_keyword one (by decide),
    after_keyword one spaceWord, after_keyword one verbWord, last, Option.none_or]
  simp only [Option.map_or, apply_ite (Option.map _), Option.map_some, Option.map_none, ends,
    quoted, before_blank spaceWord, before_blank verbWord]

/-! ### The words of the code -/

theorem foldl_get (look : String → Option String) (names : List String) (first : String) :
    names.foldl (fun path name => (look name).getD path) first =
      (names.reverse.findSome? look).getD first := by
  induction names generalizing first with
  | nil => rfl
  | cons name rest ih =>
      rw [List.foldl_cons, ih, List.reverse_cons, List.findSome?_append, List.findSome?_cons]
      cases rest.reverse.findSome? look <;> cases look name <;> rfl

theorem find_some_alike {look : String → Option String} {names : List String}
    {found : String → Bool} {value : String}
    (alike : ∀ name ∈ names, look name = if found name then some value else none) :
    names.findSome? look = if names.any found then some value else none := by
  induction names with
  | nil => rfl
  | cons name rest ih =>
      rw [List.findSome?_cons, List.any_cons, alike name List.mem_cons_self,
        ih fun other member => alike other (List.mem_cons_of_mem _ member)]
      cases found name <;> rfl

theorem verb_is_segment {verb : String} (known : verb ∈ verbs) : IsSegment verb := by
  have nonempty : ∀ verb ∈ verbs, verb ≠ "" := by decide
  have unspaced : ∀ verb ∈ verbs, ' ' ∉ verb.toList := by decide
  have unquoted : ∀ verb ∈ verbs, verb.toList.all (fun c => isQuote c = false) = true := by decide
  have whole : ∀ verb ∈ verbs, ¬"...".toList <:+: verb.toList := by decide
  have noAddress : ∀ verb ∈ verbs, ¬"http".toList <:+: verb.toList := by decide
  have notHidden : ∀ verb ∈ verbs, verb.toList.head? ≠ some '.' := by decide
  exact ⟨nonempty verb known, unspaced verb known, Text.each_of_all (unquoted verb known),
    whole verb known, noAddress verb known, notHidden verb known⟩

theorem infix_namespaced {space verb path : String} {mark : List Char} (nonempty : mark ≠ [])
    (unspaced : ' ' ∉ mark) (unquoted : '"' ∉ mark)
    (within : mark <:+: (namespaced space verb path).toList) :
    mark <:+: "namespace".toList ∨ mark <:+: space.toList ∨ mark <:+: verb.toList ∨
      mark <:+: path.toList := by
  rw [namespaced_chars, Text.infix_around_iff unspaced, Text.infix_around_iff unspaced,
    Text.infix_around_iff unspaced] at within
  have quoted : mark <:+: [] ++ '"' :: (path.toList ++ '"' :: []) → mark <:+: path.toList := by
    rw [Text.infix_around_iff unquoted, Text.infix_around_iff unquoted, List.infix_nil]
    simp [nonempty]
  exact within.imp_right (.imp_right (.imp_right quoted))

theorem without_quotes_of_unquoted {word : String}
    (unquoted : ∀ c ∈ word.toList, isQuote c = false) : withoutQuotes word = word := by
  have kept : word.toList.filter (fun c => !isQuote c) = word.toList := by
    apply List.filter_eq_self.2
    intro c member
    rw [unquoted c member]
    rfl
  rw [withoutQuotes, kept, String.ofList_toList]

theorem without_quotes_of_quoted {word : String}
    (unquoted : ∀ c ∈ word.toList, isQuote c = false) :
    withoutQuotes ("\"" ++ word ++ "\"") = word := by
  have inner := without_quotes_of_unquoted unquoted
  have mark : "\"".toList.filter (fun c => !isQuote c) = [] := by decide
  rw [withoutQuotes] at inner ⊢
  rw [String.toList_append, String.toList_append, List.filter_append, List.filter_append, mark,
    List.nil_append, List.append_nil, inner]

theorem IsSegment.exists_cons {word : String} (segment : IsSegment word) :
    ∃ first rest, word.toList = first :: rest ∧ first ≠ '.' := by
  have chars : word.toList ≠ [] := fun none => segment.nonempty (String.toList_eq_nil_iff.1 none)
  obtain ⟨first, rest, same⟩ := List.exists_cons_of_ne_nil chars
  refine ⟨first, rest, same, ?_⟩
  have notHidden := segment.notHidden
  rw [same, List.head?_cons] at notHidden
  exact fun dot => notHidden (congrArg some dot)

/-- Of the tests on routes only that for a torn address says something about joined segments. -/
theorem keeps_joined {leading trailing : String} (first : IsSegment leading)
    (second : IsSegment trailing) :
    (decide (1 < (leading ++ trailing).length) && !Text.startsWith (leading ++ trailing) "." &&
      leading ++ trailing != "https:/") = (leading ++ trailing != "https:/") := by
  obtain ⟨c, front, leadingChars, notDot⟩ := first.exists_cons
  obtain ⟨d, back, trailingChars, _⟩ := second.exists_cons
  have chars : (leading ++ trailing).toList = c :: (front ++ d :: back) := by
    rw [String.toList_append, leadingChars, trailingChars, List.cons_append]
  have long : 1 < (leading ++ trailing).length := by
    rw [← String.length_toList, chars, List.length_cons, List.length_append, List.length_cons]
    omega
  have shown : Text.startsWith (leading ++ trailing) "." = false := by
    rw [Text.startsWith, chars, ← Bool.not_eq_true, List.isPrefixOf_iff_prefix]
    intro begins
    exact notDot (List.cons_prefix_cons.1 begins).1.symm
  rw [decide_eq_true long, shown, Bool.not_false, Bool.and_true, Bool.true_and]

section Code

variable {space verb path : String} (known : verb ∈ verbs) (spaced : IsSegment space)
  (routed : IsSegment path)

include known spaced routed

theorem word_after_namespace : wordAfterLast? (namespaced space verb path) "namespace " =
    some (leadingWord space verb) := by
  have other : ∀ verb ∈ verbs, Text.endsWith verb "namespace" = false := by decide
  have itself : Text.endsWith "namespace" "namespace" = true := by decide
  have found := @word_after_keyword "namespace" space verb path (by decide) spaced.unspaced
    (verb_is_segment known).unspaced routed.unspaced
  rw [other verb known, itself] at found
  have marked : "namespace " = "namespace" ++ " " := rfl
  rw [marked, found, leadingWord]
  cases Text.endsWith space "namespace" <;> rfl

theorem word_after_verbs : verbs.foldl (fun found name =>
      (wordAfterLast? (namespaced space verb path) (name ++ " ")).getD found) "" =
    if (outranking verb).any (Text.endsWith space) then verb else "\"" ++ path ++ "\"" := by
  have alone : ∀ verb ∈ verbs, ∀ name ∈ verbs, Text.endsWith verb name = (verb == name) := by
    decide
  have apart : ∀ name ∈ verbs, Text.endsWith "namespace" name = false := by decide
  have order : ∀ verb ∈ verbs, verbs = verbs.takeWhile (· != verb) ++ verb :: outranking verb ∧
      verb ∉ outranking verb ∧ ∀ name ∈ outranking verb, name ∈ verbs := by decide
  have found : ∀ name ∈ verbs, wordAfterLast? (namespaced space verb path) (name ++ " ") =
      (if verb == name then some ("\"" ++ path ++ "\"") else none).or
        (if Text.endsWith space name then some verb else none) := by
    intro name member
    rw [word_after_keyword (verb_is_segment member).unspaced spaced.unspaced
      (verb_is_segment known).unspaced routed.unspaced, alone verb known name member,
      apart name member]
    exact Option.or_none
  obtain ⟨split, once, later⟩ := order verb known
  have behind : (outranking verb).reverse.findSome? (fun name =>
      wordAfterLast? (namespaced space verb path) (name ++ " ")) =
      if (outranking verb).any (Text.endsWith space) then some verb else none := by
    rw [← List.any_reverse]
    apply find_some_alike
    intro name member
    rw [List.mem_reverse] at member
    have other : (verb == name) = false := by
      rw [beq_eq_false_iff_ne]
      rintro rfl
      exact once member
    rw [found name (later name member), other]
    exact Option.none_or
  have own : wordAfterLast? (namespaced space verb path) (verb ++ " ") =
      some ("\"" ++ path ++ "\"") := by
    rw [found verb known, beq_self_eq_true]
    rfl
  rw [foldl_get, split, List.reverse_append, List.reverse_cons, List.append_assoc,
    List.findSome?_append, behind, List.singleton_append, List.findSome?_cons, own]
  split <;> rfl

omit routed in
theorem leading_word_is_segment : IsSegment (leadingWord space verb) := by
  rw [leadingWord]
  split
  · exact verb_is_segment known
  · exact spaced

omit spaced in
theorem trailing_word_is_segment : IsSegment (trailingWord space verb path) := by
  rw [trailingWord]
  split
  · exact verb_is_segment known
  · exact routed

theorem no_ellipsis_in_code :
    Text.replace (namespaced space verb path) "..." "" = namespaced space verb path := by
  apply Text.replace_free (by decide)
  intro within
  rcases infix_namespaced (by decide) (by decide) (by decide) within with
    word | inSpace | inVerb | inPath
  · exact absurd word (by decide)
  · exact spaced.whole inSpace
  · exact (verb_is_segment known).whole inVerb
  · exact routed.whole inPath

theorem no_address_in_code : Text.contains (namespaced space verb path) "http" = false := by
  rw [← Bool.not_eq_true, Text.contains_iff]
  intro within
  rcases infix_namespaced (by decide) (by decide) (by decide) within with
    word | inSpace | inVerb | inPath
  · exact absurd word (by decide)
  · exact spaced.noAddress inSpace
  · exact (verb_is_segment known).noAddress inVerb
  · exact routed.noAddress inPath

omit spaced in
theorem without_quotes_of_verbs :
    withoutQuotes (if (outranking verb).any (Text.endsWith space) then verb
      else "\"" ++ path ++ "\"") = trailingWord space verb path := by
  rw [trailingWord]
  split
  · exact without_quotes_of_unquoted (verb_is_segment known).unquoted
  · exact without_quotes_of_quoted routed.unquoted

theorem extract_of_words : extract .ruby (namespaced space verb path) =
    [leadingWord space verb ++ trailingWord space verb path].filter (· != "https:/") := by
  have leading := leading_word_is_segment known spaced
  have trailing : IsSegment (trailingWord space verb path) :=
    trailing_word_is_segment known routed
  have someCode : namespaced space verb path ≠ "" := by
    intro none
    have chars := namespaced_chars space verb path
    rw [none] at chars
    cases chars
  have someSpace : (leadingWord space verb != "") = true := by
    rw [bne_iff_ne]
    exact leading.nonempty
  rw [extract, if_neg someCode]
  unfold rubyRoutes
  dsimp only
  rw [no_ellipsis_in_code known spaced routed, no_address_in_code known spaced routed,
    word_after_namespace known spaced routed, word_after_verbs known spaced routed,
    Option.some_or, Option.getD_some, someSpace, Bool.true_or, if_pos rfl, Bool.false_and,
    if_neg Bool.false_ne_true, List.nil_append, without_quotes_of_unquoted leading.unquoted,
    without_quotes_of_verbs known routed, List.filter_cons, List.filter_cons,
    keeps_joined leading trailing]
  rfl

/-- The namespace and the path are joined, if no keyword that is at work ends the namespace; that
which is left of a torn address is no route. -/
theorem extract_namespaced
    (apart : ∀ keyword ∈ "namespace" :: outranking verb, Text.endsWith space keyword = false) :
    extract .ruby (namespaced space verb path) =
      if space ++ path = "https:/" then [] else [space ++ path] := by
  have leading : leadingWord space verb = space := by
    rw [leadingWord, apart "namespace" List.mem_cons_self, if_neg Bool.false_ne_true]
  have trailing : trailingWord space verb path = path := by
    have none : (outranking verb).any (Text.endsWith space) = false := by
      rw [List.any_eq_false]
      intro name member ends
      rw [apart name (List.mem_cons_of_mem _ member)] at ends
      cases ends
    rw [trailingWord, none, if_neg Bool.false_ne_true]
  rw [extract_of_words known spaced routed, leading, trailing]
  split
  · rename_i torn
    rw [torn]
    rfl
  · rename_i other
    exact List.filter_cons_of_pos (bne_iff_ne.2 other)

end Code

instance (word : String) : Decidable (IsSegment word) :=
  haveI : Decidable (∀ c ∈ word.toList, isQuote c = false) := List.decidableBAll _ _
  decidable_of_iff (word ≠ "" ∧ ' ' ∉ word.toList ∧ (∀ c ∈ word.toList, isQuote c = false) ∧
      ¬"...".toList <:+: word.toList ∧ ¬"http".toList <:+: word.toList ∧
      word.toList.head? ≠ some '.')
    ⟨fun ⟨nonempty, unspaced, unquoted, whole, noAddress, notHidden⟩ =>
      ⟨nonempty, unspaced, unquoted, whole, noAddress, notHidden⟩,
    fun segment => ⟨segment.nonempty, segment.unspaced, segment.unquoted, segment.whole,
      segment.noAddress, segment.notHidden⟩⟩

theorem extract_namespaced_getters :
    ("put" ∈ verbs ∧ IsSegment "getters" ∧ IsSegment "/:id" ∧
      ∀ keyword ∈ "namespace" :: outranking "put", Text.endsWith "getters" keyword = false) ∧
    extract .ruby (namespaced "getters" "put" "/:id") = ["getters/:id"] := by
  have fits : "put" ∈ verbs ∧ IsSegment "getters" ∧ IsSegment "/:id" ∧
      ∀ keyword ∈ "namespace" :: outranking "put", Text.endsWith "getters" keyword = false := by
    decide
  obtain ⟨known, spaced, routed, apart⟩ := fits
  refine ⟨⟨known, spaced, routed, apart⟩, ?_⟩
  rw [extract_namespaced known spaced routed apart]
  decide

/-- A namespace with the name of a verb that wins, a namespace called `namespace`, and two words that
are a torn address together. -/
theorem other_words_are_joined :
    (IsSegment "post" ∧ IsSegment "/x" ∧
      extract .ruby (namespaced "post" "get" "/x") = ["postget"]) ∧
    (IsSegment "namespace" ∧
      extract .ruby (namespaced "namespace" "get" "/x") = ["get/x"]) ∧
    (IsSegment "ht" ∧ IsSegment "tps:/" ∧
      extract .ruby (namespaced "ht" "get" "tps:/") = []) := by
  have known : "get" ∈ verbs := by decide
  have spaces : IsSegment "post" ∧ IsSegment "namespace" ∧ IsSegment "ht" := by decide
  have paths : IsSegment "/x" ∧ IsSegment "tps:/" := by decide
  obtain ⟨post, space, start⟩ := spaces
  obtain ⟨path, rest⟩ := paths
  refine ⟨⟨post, path, ?_⟩, ⟨space, ?_⟩, start, rest, ?_⟩
  · rw [extract_of_words known post path]
    decide
  · rw [extract_of_words known space path]
    decide
  · rw [extract_of_words known start rest]
    decide

end BomEvidence.Route
