import BomEvidence.Proofs.Evidence.Detections
import BomEvidence.Proofs.Text.Removed
import Mathlib.Data.List.Induction
import Mathlib.Data.List.TakeWhile

/-!
The name of the service of a file. The types of a file and its objects without a full name take it
from the path in two ways: for types the ending `.py` is removed wherever it stands in the path, and
`-service` is put behind the name that the rest leads to; for objects the name of the file is cut at
its first dot, and `-service` is put behind it only if it does not end in `service` already. The two
agree for names without any other ending.
-/

namespace BomEvidence

/-! ### The last part of a path -/

/-- The last part that names something, or else the first part. -/
def lastPart (first : String) (rest : List String) : String :=
  ((rest.filter fun part => part != "" && part != ".").getLast?).getD first

theorem last_part_concat (first : String) (rest : List String) (part : String) :
    lastPart first (rest ++ [part]) =
      if part = "" ∨ part = "." then lastPart first rest else part := by
  unfold lastPart
  rw [List.filter_append]
  by_cases idle : part = "" ∨ part = "."
  · have passed : ([part].filter fun part => part != "" && part != ".") = [] := by
      rcases idle with rfl | rfl <;> rfl
    rw [passed, if_pos idle, List.append_nil]
  · rw [not_or] at idle
    have kept : ([part].filter fun part => part != "" && part != ".") = [part] := by
      simp [idle.1, idle.2]
    rw [kept, if_neg (not_or.2 idle), List.getLast?_concat, Option.getD_some]

/-- A change of each part that keeps idle parts idle changes the last part alike. -/
theorem last_part_map {change : String → String} (empty : change "" = "")
    (current : change "." = ".") {first : String} {rest : List String}
    (names : change (lastPart first rest) ≠ "") (apart : change (lastPart first rest) ≠ ".") :
    lastPart (change first) (rest.map change) = change (lastPart first rest) := by
  induction rest using List.reverseRecOn with
  | nil => rfl
  | append_singleton rest part ih =>
      rw [List.map_append, List.map_singleton, last_part_concat, last_part_concat] at *
      by_cases idle : part = "" ∨ part = "."
      · have stays : change part = "" ∨ change part = "." := by
          rcases idle with rfl | rfl
          · exact Or.inl empty
          · exact Or.inr current
        rw [if_pos idle] at names apart ⊢
        rw [if_pos stays]
        exact ih names apart
      · rw [if_neg idle] at names apart ⊢
        rw [if_neg (not_or.2 ⟨names, apart⟩)]

theorem file_name_eq {path first : String} {rest : List String}
    (cut : Text.split path "/" = first :: rest) : fileName? path =
      if lastPart first rest = "" ∨ lastPart first rest = "." ∨ lastPart first rest = ".." then none
      else some (lastPart first rest) := by
  unfold fileName? pathParts
  rw [cut]
  by_cases empty : path = ""
  · have single : first :: rest = [""] := by
      rw [← cut, empty]
      decide
    obtain ⟨rfl, rfl⟩ := List.cons.inj single
    rw [empty]
    rfl
  · have present : (first = "" && path = "") = false := by simp [empty]
    simp only [present, Bool.false_eq_true, if_false, List.getLast?_cons, Bool.or_eq_true,
      decide_eq_true_eq, or_assoc]
    rfl

theorem file_name_or_path_eq_empty_iff {path : String} : fileNameOrPath path = "" ↔ path = "" := by
  obtain ⟨first, rest, cut⟩ := List.exists_cons_of_ne_nil (Text.split_ne_nil path "/")
  unfold fileNameOrPath
  rw [file_name_eq cut]
  by_cases unnamed : lastPart first rest = "" ∨ lastPart first rest = "." ∨
      lastPart first rest = ".."
  · rw [if_pos unnamed, Option.getD_none]
  · rw [if_neg unnamed, Option.getD_some]
    rw [not_or] at unnamed
    constructor
    · intro empty
      exact absurd empty unnamed.1
    · rintro rfl
      have single : first :: rest = [""] := by
        rw [← cut]
        decide
      obtain ⟨rfl, rfl⟩ := List.cons.inj single
      exact absurd rfl unnamed.1

theorem file_name_of_free {path : String} (absent : '/' ∉ path.toList) :
    fileName? path = if path = "" ∨ path = "." ∨ path = ".." then none else some path := by
  have cut : Text.split path "/" = path :: [] := by
    rw [Text.split_eq (c := '/') rfl, List.splitOn_eq_singleton absent, List.map_singleton,
      String.ofList_toList]
  rw [file_name_eq cut]
  rfl

/-! ### Paths without the ending -/

namespace Service

def ending : String := ".py"

def withoutEnding (path : String) : String := Text.replace path ending ""

theorem to_list_without_ending (path : String) :
    (withoutEnding path).toList = Text.removed ending.toList path.toList :=
  Text.to_list_replace_empty path ending

theorem split_without_ending (path : String) :
    Text.split (withoutEnding path) "/" = (Text.split path "/").map withoutEnding := by
  have parts : String.ofList ∘ Text.removed ending.toList = withoutEnding ∘ String.ofList := by
    funext part
    apply String.toList_injective
    rw [Function.comp_apply, Function.comp_apply, to_list_without_ending, String.toList_ofList,
      String.toList_ofList]
  rw [Text.split_eq (c := '/') rfl, Text.split_eq (c := '/') rfl, to_list_without_ending,
    Text.split_on_removed (by decide) (by decide), List.map_map, List.map_map, parts]

theorem file_name_without_ending {path name : String} (named : fileName? path = some name)
    (names : withoutEnding name ∉ ["", ".", ".."]) :
    fileNameOrPath (withoutEnding path) = withoutEnding name := by
  obtain ⟨first, rest, cut⟩ := List.exists_cons_of_ne_nil (Text.split_ne_nil path "/")
  rw [file_name_eq cut] at named
  split at named
  · cases named
  · cases named
    have apart := names
    simp only [List.mem_cons, List.not_mem_nil, or_false, not_or] at apart
    have changed : Text.split (withoutEnding path) "/" =
        withoutEnding first :: rest.map withoutEnding := by
      rw [split_without_ending, cut, List.map_cons]
    have last : lastPart (withoutEnding first) (rest.map withoutEnding) =
        withoutEnding (lastPart first rest) :=
      last_part_map (by decide) (by decide) apart.1 apart.2.1
    rw [fileNameOrPath, file_name_eq changed, last, if_neg (by simpa using names), Option.getD_some]

/-! ### The two names -/

def stem (name : String) : List Char := name.toList.takeWhile (· != '.')

def endings (name : String) : List Char := name.toList.dropWhile (· != '.')

/-- The file names from which types and objects take one name: the stem does not end in `service`,
nothing but the ending that is left out follows it, any number of times, and a name without a stem
is the whole path. -/
structure SharesName (path name : String) : Prop where
  single : ¬"service".toList <:+ stem name
  plain : ∃ count, endings name = (List.replicate count ending.toList).flatten
  whole : stem name = [] → path = name

theorem stem_append_endings (name : String) : stem name ++ endings name = name.toList :=
  List.takeWhile_append_dropWhile

theorem undotted_stem (name : String) : '.' ∉ stem name := by
  intro member
  simpa using List.mem_takeWhile_imp member

theorem before_dot (name : String) : Text.before name "." = String.ofList (stem name) := by
  have cut := stem_append_endings name
  cases behind : endings name with
  | nil =>
      rw [behind, List.append_nil] at cut
      have absent := undotted_stem name
      rw [cut] at absent
      rw [cut, String.ofList_toList]
      exact Text.before_free (Text.free_of_absent (by decide) absent)
  | cons c behind' =>
      have dot : c = '.' := by
        have first := List.head?_dropWhile_not (· != '.') name.toList
        rw [← endings, behind] at first
        simpa using first
      have found : Text.breakAt? ".".toList name.toList = some (stem name, behind') := by
        rw [← cut, behind, dot]
        exact Text.break_at_mark (Text.Clear.of_first (undotted_stem name)) behind'
      rw [Text.before, found]

theorem to_list_without_ending_of_name (name : String) : (withoutEnding name).toList =
    stem name ++ Text.removed ending.toList (endings name) := by
  rw [to_list_without_ending, ← stem_append_endings name]
  exact Text.removed_behind (undotted_stem name) (endings name)

variable {path name : String}

theorem file_name_of_stem (named : fileName? path = some name) (stemmed : stem name ≠ []) :
    fileNameOrPath (withoutEnding path) = withoutEnding name := by
  apply file_name_without_ending named
  obtain ⟨c, later, front⟩ := List.exists_cons_of_ne_nil stemmed
  have left := to_list_without_ending_of_name name
  have dot : c ≠ '.' := by
    rintro rfl
    exact undotted_stem name (front ▸ List.mem_cons_self)
  rw [front, List.cons_append] at left
  intro member
  simp only [List.mem_cons, List.not_mem_nil, or_false] at member
  rcases member with same | same | same <;> rw [same] at left
  · cases left
  · exact dot (List.cons.inj left).1.symm
  · exact dot (List.cons.inj left).1.symm

theorem eq_of_without_ending_empty (named : fileName? path = some name)
    (empty : withoutEnding path = "") : path = name := by
  have nothing : Text.removed ending.toList path.toList = [] := by
    rw [← to_list_without_ending, empty]
    rfl
  obtain ⟨count, same⟩ := (Text.removed_eq_nil_iff (by decide)).1 nothing
  have absent : '/' ∉ path.toList := by
    rw [same, List.mem_flatten]
    rintro ⟨part, copied, member⟩
    rw [List.eq_of_mem_replicate copied] at member
    exact absurd member (by decide)
  rw [file_name_of_free absent] at named
  split at named
  · cases named
  · cases named
    rfl

theorem name_of_unnamed {object : ObjectSlice} (named : fileName? path = some name)
    (placed : object.file = some path) (unnamed : ∀ fullName ∈ object.fullName, fullName = "") :
    nameOf object = if "service".toList <:+ stem name then String.ofList (stem name)
      else String.ofList (stem name) ++ "-service" := by
  have noFullName : object.fullName.filter (· != "") = none := by
    rw [Option.filter_eq_none_iff]
    intro fullName held
    simp [unnamed fullName held]
  have nonempty : path ≠ "" := by
    rintro rfl
    have unnamed : fileName? "" = none := by decide
    rw [unnamed] at named
    cases named
  have file : object.file.filter (· != "") = some path := by
    rw [placed, Option.filter_some, if_pos (by rwa [bne_iff_ne])]
  have whole : fileNameOrPath path = name := by rw [fileNameOrPath, named, Option.getD_some]
  unfold nameOf
  simp only [noFullName, file, whole, before_dot, Text.endsWith, String.toList_ofList,
    List.isSuffixOf_iff_suffix]

theorem shares_name_of_stemless (named : fileName? path = some name) (stemless : stem name = []) :
    fileNameOrPath (withoutEnding path) = "" ↔ SharesName path name := by
  have bare : endings name = name.toList := by
    rw [← stem_append_endings name, stemless, List.nil_append]
  rw [file_name_or_path_eq_empty_iff]
  constructor
  · intro empty
    have whole := eq_of_without_ending_empty named empty
    refine ⟨by rw [stemless]; decide, ?_, fun _ => whole⟩
    rw [bare, ← whole, ← Text.removed_eq_nil_iff (by decide), ← to_list_without_ending, empty]
    rfl
  · intro shares
    apply String.toList_injective
    rw [to_list_without_ending, shares.whole stemless, ← bare]
    exact (Text.removed_eq_nil_iff (by decide)).2 shares.plain

theorem shares_name_of_stem (named : fileName? path = some name) (stemmed : stem name ≠ [])
    (single : ¬"service".toList <:+ stem name) :
    fileNameOrPath (withoutEnding path) = String.ofList (stem name) ↔ SharesName path name := by
  have left := to_list_without_ending_of_name name
  have plain : Text.removed ending.toList (endings name) = [] ↔
      ∃ count, endings name = (List.replicate count ending.toList).flatten :=
    Text.removed_eq_nil_iff (by decide)
  rw [file_name_of_stem named stemmed]
  constructor
  · intro same
    rw [same, String.toList_ofList] at left
    have nothing := List.append_right_eq_self.1 left.symm
    exact ⟨single, plain.1 nothing, fun empty => absurd empty stemmed⟩
  · intro shares
    apply String.toList_injective
    rw [left, plain.2 shares.plain, List.append_nil, String.toList_ofList]

theorem ne_stem_of_service (named : fileName? path = some name) (stemmed : stem name ≠ []) :
    fileNameOrPath (withoutEnding path) ++ "-service" ≠ String.ofList (stem name) := by
  have left := to_list_without_ending_of_name name
  rw [file_name_of_stem named stemmed]
  intro same
  have lengths := congrArg (fun text : String => text.toList.length) same
  simp [left] at lengths

theorem name_of_file_eq_iff {object : ObjectSlice} (named : fileName? path = some name)
    (placed : object.file = some path) (unnamed : ∀ fullName ∈ object.fullName, fullName = "") :
    nameOfFile (some path) = nameOf object ↔ SharesName path name := by
  have ofType : nameOfFile (some path) = fileNameOrPath (withoutEnding path) ++ "-service" := rfl
  rw [ofType, name_of_unnamed named placed unnamed]
  by_cases stemless : stem name = []
  · have single : ¬"service".toList <:+ stem name := by
      rw [stemless]
      decide
    rw [if_neg single, String.append_left_inj, stemless, String.ofList_nil]
    exact shares_name_of_stemless named stemless
  · split
    · rename_i twice
      refine iff_of_false (ne_stem_of_service named stemless) ?_
      intro shares
      exact shares.single twice
    · rename_i single
      rw [String.append_left_inj]
      exact shares_name_of_stem named stemless single

/-- A service that is found from types of a file has the name that objects of this file without a
full name give exactly if only the ending that is left out follows the stem, and the stem does not
end in `service`. -/
theorem found_service_named_as_object_iff {language : Language} (named : fileName? path = some name)
    {listed : List UserType} (declared : ∀ type ∈ listed, type.file = some path) {found : String}
    (isFound : (detectTypes language listed ∅).contains found = true) {object : ObjectSlice}
    (placed : object.file = some path) (unnamed : ∀ fullName ∈ object.fullName, fullName = "") :
    found = nameOf object ↔ SharesName path name := by
  rcases (contains_detect_types language ∅ found listed).1 isFound with
    held | ⟨_, type, member, _, same⟩
  · cases held
  · rw [← same, declared type member]
    exact name_of_file_eq_iff named placed unnamed

def routesOfFile (file field : String) : UserType :=
  { name := "ApiRoutes"
    fields := [⟨some field, none, none, none⟩]
    procedures := []
    file := some file
    line := none }

def unnamedObject (file : String) : ObjectSlice := ⟨none, none, none, some file, none, none, []⟩

theorem module_service_named_as_object :
    (detectTypes .python [routesOfFile "src/app.py" "path('/users')"] ∅).contains "app-service" ∧
      "app-service" = nameOf (unnamedObject "src/app.py") := by
  have named : fileName? "src/app.py" = some "app.py" := by decide +kernel
  have declared : ∀ type ∈ [routesOfFile "src/app.py" "path('/users')"],
      type.file = some "src/app.py" := by simp [routesOfFile]
  have isFound : (detectTypes .python [routesOfFile "src/app.py" "path('/users')"] ∅).contains
      "app-service" = true := by decide +kernel
  have unnamed : ∀ fullName ∈ (unnamedObject "src/app.py").fullName, fullName = "" := by
    simp [unnamedObject]
  have shares : SharesName "src/app.py" "app.py" := by
    refine ⟨by decide +kernel, ⟨1, by decide +kernel⟩, ?_⟩
    intro stemless
    exact absurd stemless (by decide +kernel)
  exact ⟨isFound, (found_service_named_as_object_iff named declared isFound rfl unnamed).2 shares⟩

/-- No other ending is left out of a path, so that such a file becomes two services. -/
theorem routes_of_file_are_two_services : ¬∀ (language : Language) (path name found : String)
    (listed : List UserType) (object : ObjectSlice), fileName? path = some name →
      (∀ type ∈ listed, type.file = some path) →
      (detectTypes language listed ∅).contains found = true → object.file = some path →
      object.fullName = none → found = nameOf object := by
  intro alike
  have declared : ∀ type ∈ [routesOfFile "config/routes.rb" "get \"/users\""],
      type.file = some "config/routes.rb" := by simp [routesOfFile]
  have same := alike .ruby "config/routes.rb" "routes.rb" "routes.rb-service"
    [routesOfFile "config/routes.rb" "get \"/users\""] (unnamedObject "config/routes.rb")
    (by decide +kernel) declared (by decide +kernel) rfl rfl
  exact absurd same (by decide +kernel)

end Service

end BomEvidence
