import BomEvidence.Proofs.Text.Joined
import BomEvidence.Symbol.Basic

/-!
Signatures of members, in the forms in which analysers write them, and the names that declare them.
A signature is reduced to the name of its class or module, whatever stands behind that name. In the
signature of a function of a Python module the module has the name of its file, without the folder.
-/

namespace BomEvidence.Symbol

/-- The name of a class or module, without the marks that signatures and types are written with. -/
structure IsPlainName (name : String) : Prop where
  nonempty : name ≠ ""
  plain : ∀ c ∈ name.toList, c ∉ ['$', '[', ']', ':', '<', '>', ' ']
  notCore : ¬"__core.".toList <+: name.toList

structure IsMemberName (member : String) : Prop where
  nonempty : member ≠ ""
  plain : ∀ c ∈ member.toList, c ∉ [':', '/', ' ']

def IsModuleWord (word : String) : Prop :=
  ∀ c ∈ word.toList, c ∉ ['/', '<', '_', '$', '[', ':']

/-- What a call in JavaScript may have in front of its signature. -/
def callMarks : List String := ["", "new: ", "await ", "new: await ", "await new: "]

/-- The signatures of a language, and the name that each of them is declared under. -/
inductive DeclaredIn : Language → String → String → Prop where
  | method {language : Language} {name method descriptor : String} (jvm : language.isJvm = true)
      (plain : IsPlainName name) (oneWord : ':' ∉ method.toList ∧ '.' ∉ method.toList) :
      DeclaredIn language (name ++ "." ++ method ++ ":" ++ descriptor) name
  | exported {language : Language} {mark name member : String}
      (javaScript : language.isJavaScript = true) (marked : mark ∈ callMarks)
      (plain : IsPlainName name) (named : IsMemberName member) :
      DeclaredIn language (mark ++ (name ++ ":" ++ member)) name
  | exportedMember {language : Language} {mark name member rest : String}
      (javaScript : language.isJavaScript = true) (marked : mark ∈ callMarks)
      (plain : IsPlainName name) (named : IsMemberName member) :
      DeclaredIn language (mark ++ (name ++ ":" ++ member ++ "::" ++ rest)) name
  | objectMember {name rest : String} (plain : IsPlainName name) :
      DeclaredIn .php (name ++ "->" ++ rest) name
  | classMember {name rest : String} (plain : IsPlainName name) :
      DeclaredIn .php (name ++ "::" ++ rest) name
  | constant {name rest : String} (plain : IsPlainName name) :
      DeclaredIn .ruby (name ++ "::" ++ rest) name
  | usedConstant {words name rest : String} (plain : IsPlainName name)
      (free : ¬"::".toList <:+: words.toList) (notCore : ¬"__core.".toList <+: words.toList) :
      DeclaredIn .ruby (words ++ " " ++ name ++ "::" ++ rest) name
  | function {folder file member : String} (fileWord : IsModuleWord file)
      (memberWord : IsModuleWord member) :
      DeclaredIn .python (folder ++ "/" ++ file ++ ".py:<module>." ++ member)
        (file ++ "." ++ member)

theorem IsPlainName.absent {name : String} (plain : IsPlainName name) {c : Char}
    (marks : c ∈ ['$', '[', ']', ':', '<', '>', ' ']) : c ∉ name.toList :=
  fun member => plain.plain c member marks

theorem IsMemberName.absent {member : String} (named : IsMemberName member) {c : Char}
    (marks : c ∈ [':', '/', ' ']) : c ∉ member.toList :=
  fun inside => named.plain c inside marks

/-! ### The steps that languages share -/

theorem class_name_of_canonical {language : Language} {symbol name : String}
    (canonical : canonical? language symbol = some name) (nonempty : name ≠ "")
    (plain : '<' ∉ name.toList ∧ '$' ∉ name.toList ∧ '[' ∉ name.toList) :
    className? language symbol = some name := by
  obtain ⟨noAngle, noDollar, noBracket⟩ := plain
  have angled : ∀ start ∈ unresolvedStarts, '<' ∈ start.toList := by decide
  have resolved : startsWithAny name unresolvedStarts = false := by
    rw [startsWithAny, List.any_eq_false]
    intro start member begins
    exact noAngle ((List.isPrefixOf_iff_prefix.1 begins).subset (angled start member))
  have outer : Text.before name "$" = name :=
    Text.before_free (Text.free_of_absent (List.mem_singleton.2 rfl) noDollar)
  have simple : withoutArrays name = name :=
    Text.replace_free (by decide) (Text.free_of_absent (c := '[') (by decide) noBracket) ""
  rw [className?, canonical, Option.bind_eq_bind, Option.bind_some, resolved, if_neg (by decide),
    outer, simple, if_neg nonempty]

theorem IsPlainName.class_name {name symbol : String} {language : Language}
    (plain : IsPlainName name) (canonical : canonical? language symbol = some name) :
    className? language symbol = some name := by
  apply class_name_of_canonical canonical plain.nonempty
  exact ⟨plain.absent (by decide), plain.absent (by decide), plain.absent (by decide)⟩

/-! ### The marks of calls -/

def unmarked (symbol : String) : String :=
  Text.replaceFirst (Text.replaceFirst symbol "new: " "") "await " ""

theorem java_script_canonical_eq (symbol : String) : javaScriptCanonical symbol =
    if Text.contains (unmarked symbol) ":" then
      Text.directory (Text.replace (Text.before (unmarked symbol) "::") ":" "/")
    else unmarked symbol := rfl

theorem replace_first_await (text : String) :
    Text.replaceFirst ("await " ++ text) "new: " "" =
      "await " ++ Text.replaceFirst text "new: " "" :=
  Text.replace_first_behind (by decide) (Text.each_of_all (by decide)) text ""

theorem ruby_canonical_eq {symbol : String} (colon : ':' ∈ symbol.toList)
    (notCore : ¬"__core.".toList <+: symbol.toList) : rubyCanonical? symbol =
      some ((Text.afterLast (Text.before symbol "::") " ").getD (Text.before symbol "::")) := by
  have shown : symbol ≠ "<empty>" := by
    rintro rfl
    exact absurd colon (by decide)
  have other : Text.startsWith symbol "__core." = false := by
    rw [Text.startsWith, ← Bool.not_eq_true, List.isPrefixOf_iff_prefix]
    exact notCore
  rw [rubyCanonical?, other, Bool.or_false, if_neg (by simpa using shown)]

section Reductions

variable {name member rest : String} (plain : IsPlainName name)

include plain

/-! ### Signatures of the Java machine -/

theorem jvm_canonical_method {method : String}
    (oneWord : ':' ∉ method.toList ∧ '.' ∉ method.toList) (descriptor : String) :
    jvmCanonical (name ++ "." ++ method ++ ":" ++ descriptor) = name := by
  have colon : ':' ∉ (name ++ "." ++ method).toList := by
    rw [String.toList_append, String.toList_append, List.mem_append, List.mem_append, not_or,
      not_or]
    exact ⟨⟨plain.absent (by decide), by decide⟩, oneWord.1⟩
  have clear : Text.Clear ":".toList (name ++ "." ++ method).toList := Text.Clear.of_first colon
  rw [jvmCanonical, if_pos (Text.contains_mark _ ":" descriptor), Text.before_mark clear,
    Text.split_behind rfl oneWord.2, List.dropLast_concat, Text.join_split rfl]

/-! ### Signatures of JavaScript -/

/-- The name and the member of a signature, and what may follow behind two colons. -/
def Opens (name member symbol : String) : Prop :=
  symbol = name ++ ":" ++ member ∨ ∃ rest, symbol = name ++ ":" ++ member ++ "::" ++ rest

variable (named : IsMemberName member)

include named

theorem no_blank_before_colons : ' ' ∉ (name ++ ":" ++ member).toList := by
  rw [String.toList_append, String.toList_append, List.mem_append, List.mem_append, not_or, not_or]
  exact ⟨⟨plain.absent (by decide), by decide⟩, named.absent (by decide)⟩

theorem clear_of_colons : Text.Clear "::".toList (name ++ ":" ++ member).toList := by
  have someMember : member.toList ≠ [] := fun empty =>
    named.nonempty (String.toList_eq_nil_iff.1 empty)
  obtain ⟨first, others, chars⟩ := List.exists_cons_of_ne_nil someMember
  have noColon : ':' ∉ first :: others := by
    rw [← chars]
    exact named.absent (by decide)
  rw [List.mem_cons, not_or] at noColon
  have oneColon : ¬[':', ':'] <:+: name.toList ++ [':'] := by
    rw [List.infix_concat_iff, not_or]
    constructor
    · intro ends
      obtain nothing | ⟨front, same, ends⟩ := List.suffix_concat_iff.1 ends
      · cases nothing
      · have single : front = [':'] := (List.append_inj_left' same.symm rfl)
        rw [single] at ends
        exact plain.absent (by decide) (ends.subset List.mem_cons_self)
    · intro within
      exact plain.absent (by decide) (within.subset List.mem_cons_self)
  have parts : (name ++ ":" ++ member).toList = (name.toList ++ [':']) ++ first :: others := by
    rw [String.toList_append, String.toList_append, chars]
    rfl
  rw [parts]
  apply Text.Clear.behind
  · show first ∉ [':', ':']
    simp [Ne.symm noColon.1]
  · exact oneColon
  · exact Text.Clear.of_first noColon.2

/-- Taking away a mark with a blank at its end leaves a signature with the same name. -/
theorem opens_unmarked {mark symbol : String} (blank : ' ' ∈ mark.toList)
    (start : mark.toList.head? ≠ some ':') (single : ¬[':', ':'] <:+: mark.toList)
    (opens : Opens name member symbol) :
    Opens name member (Text.replaceFirst symbol mark "") := by
  have noBlank := no_blank_before_colons plain named
  rcases opens with rfl | ⟨rest, rfl⟩
  · left
    exact Text.replace_first_free (Text.free_of_absent blank noBlank) ""
  · right
    have front : (name ++ ":" ++ member ++ "::").toList =
        (name ++ ":" ++ member).toList ++ [':', ':'] := String.toList_append
    have passes : Text.Passes mark.toList (name ++ ":" ++ member ++ "::").toList := by
      rw [front]
      apply Text.Passes.of_pair _ start single
      apply Text.free_of_absent blank
      rw [List.mem_append, not_or]
      exact ⟨noBlank, by decide⟩
    exact Text.replace_first_passes passes rest ""

theorem opens_of_marked {mark symbol : String} (marked : mark ∈ callMarks)
    (opens : Opens name member symbol) : Opens name member (unmarked (mark ++ symbol)) := by
  have created : ∀ {other}, Opens name member other →
      Opens name member (Text.replaceFirst other "new: " "") :=
    opens_unmarked plain named (by decide) (by decide) (by decide)
  have awaited : ∀ {other}, Opens name member other →
      Opens name member (Text.replaceFirst other "await " "") :=
    opens_unmarked plain named (by decide) (by decide) (by decide)
  simp only [callMarks, List.mem_cons, List.not_mem_nil, or_false] at marked
  rcases marked with rfl | rfl | rfl | rfl | rfl
  · rw [String.empty_append]
    exact awaited (created opens)
  · rw [unmarked, Text.replace_first_start]
    exact awaited opens
  · rw [unmarked, replace_first_await, Text.replace_first_start]
    exact created opens
  · have parts : "new: await " ++ symbol = "new: " ++ ("await " ++ symbol) := by
      rw [← String.append_assoc]
      rfl
    rw [unmarked, parts, Text.replace_first_start, Text.replace_first_start]
    exact opens
  · have parts : "await new: " ++ symbol = "await " ++ ("new: " ++ symbol) := by
      rw [← String.append_assoc]
      rfl
    rw [unmarked, parts, replace_first_await, Text.replace_first_start, Text.replace_first_start]
    exact opens

theorem java_script_canonical_opens {symbol : String}
    (opens : Opens name member (unmarked symbol)) : javaScriptCanonical symbol = name := by
  have head : Text.contains (unmarked symbol) ":" = true ∧
      Text.before (unmarked symbol) "::" = name ++ ":" ++ member := by
    rcases opens with same | ⟨rest, same⟩
    · rw [same]
      exact ⟨Text.contains_mark name ":" member,
        Text.before_free ((clear_of_colons plain named).free (by decide))⟩
    · rw [same]
      refine ⟨?_, Text.before_mark (clear_of_colons plain named) rest⟩
      rw [String.append_assoc, String.append_assoc]
      exact Text.contains_mark name ":" _
  have clear : Text.Clear ":".toList name.toList :=
    Text.Clear.of_first (plain.absent (by decide))
  have last : ¬":".toList <:+: member.toList :=
    Text.free_of_absent (List.mem_singleton.2 rfl) (named.absent (by decide))
  rw [java_script_canonical_eq, if_pos head.1, head.2, Text.replace_once (by decide) clear last]
  exact Text.directory_of_within name (named.absent (by decide))

omit named

/-! ### Signatures of PHP and Ruby -/

theorem php_canonical_object_member (rest : String) :
    phpCanonical (name ++ "->" ++ rest) = name := by
  have noAngle : '>' ∉ name.toList ++ ['-'] := by
    rw [List.mem_append, not_or]
    exact ⟨plain.absent (by decide), by decide⟩
  have clear : Text.Clear "->".toList name.toList :=
    (Text.Clear.of_once noAngle List.not_mem_nil : Text.Clear (['-'] ++ ['>']) name.toList)
  have free : ¬"::".toList <:+: name.toList :=
    Text.free_of_absent List.mem_cons_self (plain.absent (by decide))
  rw [phpCanonical, Text.before_mark clear, Text.before_free free]

theorem php_canonical_class_member (rest : String) :
    phpCanonical (name ++ "::" ++ rest) = name := by
  have front : (name ++ "::").toList = name.toList ++ [':', ':'] := String.toList_append
  have passes : Text.Passes "->".toList (name ++ "::").toList := by
    rw [front]
    apply Text.Passes.of_pair _ (by decide) (by decide)
    apply Text.free_of_absent (c := '>') (by decide)
    rw [List.mem_append, not_or]
    exact ⟨plain.absent (by decide), by decide⟩
  have clear : Text.Clear "::".toList name.toList :=
    Text.Clear.of_first (plain.absent (by decide))
  obtain ⟨left, head⟩ := Text.before_passes passes rest
  rw [phpCanonical, head, Text.before_mark clear]

theorem ruby_canonical_constant (rest : String) :
    rubyCanonical? (name ++ "::" ++ rest) = some name := by
  have parts : (name ++ "::" ++ rest).toList = name.toList ++ ':' :: ':' :: rest.toList := by
    rw [String.toList_append, String.toList_append, List.append_assoc]
    rfl
  have colon : ':' ∈ (name ++ "::" ++ rest).toList := by
    rw [parts]
    exact List.mem_append_right name.toList List.mem_cons_self
  have notCore : ¬"__core.".toList <+: (name ++ "::" ++ rest).toList := by
    rw [parts]
    exact fun begins => plain.notCore (Text.prefix_before (by decide) begins)
  have clear : Text.Clear "::".toList name.toList :=
    Text.Clear.of_first (plain.absent (by decide))
  have oneWord : ¬" ".toList <:+: name.toList :=
    Text.free_of_absent List.mem_cons_self (plain.absent (by decide))
  rw [ruby_canonical_eq colon notCore, Text.before_mark clear, Text.after_last_free_text oneWord]
  rfl

theorem ruby_canonical_used_constant {words : String} (free : ¬"::".toList <:+: words.toList)
    (notCore : ¬"__core.".toList <+: words.toList) (rest : String) :
    rubyCanonical? (words ++ " " ++ name ++ "::" ++ rest) = some name := by
  have front : (words ++ " " ++ name).toList = words.toList ++ ' ' :: name.toList := by
    rw [String.toList_append, String.toList_append, List.append_assoc]
    rfl
  have parts : (words ++ " " ++ name ++ "::" ++ rest).toList =
      words.toList ++ ' ' :: (name.toList ++ ':' :: ':' :: rest.toList) := by
    rw [String.toList_append, String.toList_append, front, List.append_assoc, List.append_assoc]
    rfl
  have colon : ':' ∈ (words ++ " " ++ name ++ "::" ++ rest).toList := by
    rw [parts]
    apply List.mem_append_right
    apply List.mem_cons_of_mem
    exact List.mem_append_right name.toList List.mem_cons_self
  have notCoreHere : ¬"__core.".toList <+: (words ++ " " ++ name ++ "::" ++ rest).toList := by
    rw [parts]
    exact fun begins => notCore (Text.prefix_before (by decide) begins)
  have clear : Text.Clear "::".toList (words ++ " " ++ name).toList := by
    rw [front]
    apply Text.Clear.behind (by decide) free
    exact Text.Clear.of_first (plain.absent (by decide))
  have lastWord : Text.afterLast (words ++ " " ++ name) " " = some name :=
    Text.after_last_mark (c := ' ') rfl (plain.absent (by decide)) words
  rw [ruby_canonical_eq colon notCoreHere, Text.before_mark clear, lastWord]
  rfl

end Reductions

/-! ### Signatures of Python -/

theorem foldl_replace {name : String} {marks : List String}
    (kept : ∀ mark ∈ marks, Text.replace name mark "" = name) :
    marks.foldl (fun name mark => Text.replace name mark "") name = name := by
  induction marks with
  | nil => rfl
  | cons mark rest ih =>
      rw [List.foldl_cons, kept mark List.mem_cons_self]
      exact ih fun other member => kept other (List.mem_cons_of_mem _ member)

theorem replace_decorations {name : String} (noAngle : '<' ∉ name.toList)
    (noLine : '_' ∉ name.toList) :
    pythonDecorations.foldl (fun name decoration => Text.replace name decoration "") name =
      name := by
  have marked : ∀ decoration ∈ pythonDecorations,
      decoration.toList ≠ [] ∧ ('<' ∈ decoration.toList ∨ '_' ∈ decoration.toList) := by decide
  apply foldl_replace
  intro decoration member
  obtain ⟨nonempty, angle | line⟩ := marked decoration member
  · exact Text.replace_free nonempty (Text.free_of_absent angle noAngle) ""
  · exact Text.replace_free nonempty (Text.free_of_absent line noLine) ""

section Functions

variable {file member : String} (fileWord : IsModuleWord file) (memberWord : IsModuleWord member)

include fileWord memberWord

theorem absent_in_function {c : Char} (marks : c ∈ ['/', '<', '_', '$', '[', ':']) :
    c ∉ (file ++ "." ++ member).toList := by
  have dot : ∀ c ∈ ['/', '<', '_', '$', '[', ':'], c ∉ ".".toList := Text.each_of_all (by decide)
  rw [String.toList_append, String.toList_append, List.mem_append, List.mem_append, not_or, not_or]
  exact ⟨⟨fun inside => fileWord c inside marks, dot c marks⟩,
    fun inside => memberWord c inside marks⟩

theorem python_canonical_function (folder : String) :
    pythonCanonical (folder ++ "/" ++ file ++ ".py:<module>." ++ member) =
      file ++ "." ++ member := by
  have parts : folder ++ "/" ++ file ++ ".py:<module>." ++ member =
      folder ++ "/" ++ (file ++ ".py:<module>" ++ ("." ++ member)) := by
    have mark : ".py:<module>." = ".py:<module>" ++ "." := rfl
    rw [mark]
    simp only [String.append_assoc]
  have noSlash : '/' ∉ (file ++ ".py:<module>" ++ ("." ++ member)).toList := by
    have apart : '/' ∉ ".py:<module>".toList ∧ '/' ∉ ".".toList := by decide
    simp only [String.toList_append, List.mem_append, not_or]
    exact ⟨⟨fun inside => fileWord _ inside (by decide), apart.1⟩, apart.2,
      fun inside => memberWord _ inside (by decide)⟩
  have noColon : ':' ∉ file.toList ++ ".py".toList := by
    rw [List.mem_append, not_or]
    exact ⟨fun inside => fileWord _ inside (by decide), by decide⟩
  have clear : Text.Clear ".py:<module>".toList file.toList :=
    (Text.Clear.of_once noColon (by decide) :
      Text.Clear (".py".toList ++ ':' :: "<module>".toList) file.toList)
  have free : ¬".py:<module>".toList <:+: ("." ++ member).toList := by
    apply Text.free_of_absent (c := ':') (by decide)
    rw [String.toList_append, List.mem_append, not_or]
    exact ⟨by decide, fun inside => memberWord _ inside (by decide)⟩
  have last : Text.afterLast (folder ++ "/" ++ (file ++ ".py:<module>" ++ ("." ++ member))) "/" =
      some (file ++ ".py:<module>" ++ ("." ++ member)) :=
    Text.after_last_mark (c := '/') rfl noSlash folder
  rw [parts, pythonCanonical, last, Option.getD_some, Text.replace_once (by decide) clear free,
    String.append_empty, ← String.append_assoc]
  apply replace_decorations
  · exact absent_in_function fileWord memberWord (by decide)
  · exact absent_in_function fileWord memberWord (by decide)

end Functions

/-! ### All languages -/

theorem canonical_of_jvm {language : Language} (jvm : language.isJvm = true) (symbol : String) :
    canonical? language symbol = some (jvmCanonical symbol) := by
  cases language with
  | java | jar => rfl
  | _ => cases jvm

theorem canonical_of_java_script {language : Language} (javaScript : language.isJavaScript = true)
    (symbol : String) : canonical? language symbol = some (javaScriptCanonical symbol) := by
  cases language with
  | javascript | typescript => rfl
  | _ => cases javaScript

/-- A signature is reduced to the name that it is declared under. -/
theorem class_name_of_declared {language : Language} {symbol name : String}
    (declared : DeclaredIn language symbol name) : className? language symbol = some name := by
  cases declared with
  | method jvm plain oneWord =>
      apply plain.class_name
      rw [canonical_of_jvm jvm, jvm_canonical_method plain oneWord]
  | exported javaScript marked plain named =>
      have opens := opens_of_marked plain named marked (Or.inl rfl)
      apply plain.class_name
      rw [canonical_of_java_script javaScript, java_script_canonical_opens plain named opens]
  | @exportedMember _ _ _ _ rest javaScript marked plain named =>
      have opens := opens_of_marked plain named marked (Or.inr ⟨rest, rfl⟩)
      apply plain.class_name
      rw [canonical_of_java_script javaScript, java_script_canonical_opens plain named opens]
  | objectMember plain =>
      apply plain.class_name
      rw [canonical?, php_canonical_object_member plain]
  | classMember plain =>
      apply plain.class_name
      rw [canonical?, php_canonical_class_member plain]
  | constant plain => exact plain.class_name (ruby_canonical_constant plain _)
  | usedConstant plain free notCore =>
      exact plain.class_name (ruby_canonical_used_constant plain free notCore _)
  | @function folder file member fileWord memberWord =>
      have absent : ∀ {c}, c ∈ ['/', '<', '_', '$', '[', ':'] →
          c ∉ (file ++ "." ++ member).toList := absent_in_function fileWord memberWord
      apply class_name_of_canonical
      · rw [canonical?, python_canonical_function fileWord memberWord]
      · intro empty
        have dot : '.' ∈ (file ++ "." ++ member).toList := by simp
        rw [empty] at dot
        cases dot
      · exact ⟨absent (by decide), absent (by decide), absent (by decide)⟩

/-- An awaited call of a constructor's method, and a class of a Python module. -/
theorem class_name_of_samples :
    (DeclaredIn .typescript "await new: @aws-sdk/client-batch:BatchClient::send"
        "@aws-sdk/client-batch" ∧
      className? .typescript "await new: @aws-sdk/client-batch:BatchClient::send" =
        some "@aws-sdk/client-batch") ∧
    (DeclaredIn .python "app/views.py:<module>.requests.Session" "views.requests.Session" ∧
      className? .python "app/views.py:<module>.requests.Session" =
        some "views.requests.Session") := by
  have awaited : DeclaredIn .typescript "await new: @aws-sdk/client-batch:BatchClient::send"
      "@aws-sdk/client-batch" :=
    @DeclaredIn.exportedMember .typescript "await new: " "@aws-sdk/client-batch" "BatchClient"
      "send" rfl (by decide) ⟨by decide, Text.each_of_all (by decide), by decide⟩
      ⟨by decide, Text.each_of_all (by decide)⟩
  have session : DeclaredIn .python "app/views.py:<module>.requests.Session"
      "views.requests.Session" :=
    @DeclaredIn.function "app" "views" "requests.Session" (Text.each_of_all (by decide))
      (Text.each_of_all (by decide))
  exact ⟨⟨awaited, class_name_of_declared awaited⟩, ⟨session, class_name_of_declared session⟩⟩

end BomEvidence.Symbol
