import BomEvidence.Proofs.Sorted.Keys
import BomEvidence.Proofs.Text.Pieces
import BomEvidence.Resolution.ImportTable

/-!
What calls make of a table of aliases. A call lists aliases, as they are or written with separators,
and those that are not blank come to its package. The table finds a package by the aliases that its
calls contributed, so that neither the order of calls counts nor how their aliases are spread over
them.
-/

namespace BomEvidence

def AliasMatch.Names : AliasMatch → String → String → Prop
  | .exact, name, symbol => name = symbol
  | .overlap, name, symbol => name.toList <+: symbol.toList ∨ symbol.toList <+: name.toList

theorem AliasMatch.names_iff {rule : AliasMatch} {name symbol : String} :
    ImportTable.aliasNames rule name symbol = true ↔ rule.Names name symbol := by
  cases rule with
  | exact => exact decide_eq_true_iff
  | overlap =>
      rw [ImportTable.aliasNames, Bool.or_eq_true]
      apply or_congr
      · exact List.isPrefixOf_iff_prefix
      · exact List.isPrefixOf_iff_prefix

/-! ### One call -/

inductive AliasCall where
  | listed (purl : String) (aliases : List String)
  | joined (purl text separator : String)

namespace AliasCall

def purl : AliasCall → String
  | .listed purl _ => purl
  | .joined purl _ _ => purl

def apply (table : ImportTable) : AliasCall → ImportTable
  | .listed purl aliases => table.insert purl aliases
  | .joined purl text separator => table.insertJoined purl text separator

def Separated : AliasCall → Prop
  | .listed _ _ => True
  | .joined _ _ separator => separator ≠ ""

instance : (call : AliasCall) → Decidable call.Separated
  | .listed _ _ => .isTrue trivial
  | .joined _ _ separator => inferInstanceAs (Decidable (separator ≠ ""))

/-- A written list has its aliases between the separators, with blanks around them. -/
def Lists : AliasCall → String → Prop
  | .listed _ aliases, name => name ∈ aliases
  | .joined _ text separator, name => ∃ pieces, Text.CutsInto separator.toList text.toList pieces ∧
      ∃ piece ∈ pieces, name = Text.trim (String.ofList piece)

/-- An alias that is not blank comes from a call to a package. -/
structure Contributes (call : AliasCall) (purl name : String) : Prop where
  package : call.purl = purl
  lists : call.Lists name
  shown : Text.allBlank name = false

/-- Several calls for the same package in place of one: a list in several parts, or a written list
at some of the separators where it is cut. -/
inductive SplitsInto : AliasCall → List AliasCall → Prop where
  | listed (purl : String) (parts : List (List String)) :
      SplitsInto (.listed purl parts.flatten) (parts.map (.listed purl))
  | joined (purl text separator : String) (groups : List (List (List Char)))
      (some : ∀ group ∈ groups, group ≠ [])
      (cuts : Text.CutsInto separator.toList text.toList groups.flatten) :
      SplitsInto (.joined purl text separator) (groups.map fun group =>
        .joined purl (String.ofList (separator.toList.intercalate group)) separator)

/-- The aliases of a call, blank ones among them. -/
def aliases : AliasCall → List String
  | .listed _ aliases => aliases
  | .joined _ text separator => ImportTable.splitAliases text separator

theorem apply_eq (table : ImportTable) (call : AliasCall) :
    call.apply table = table.insert call.purl call.aliases := by
  cases call <;> rfl

theorem separator_ne_nil {purl text separator : String}
    (separated : (AliasCall.joined purl text separator).Separated) : separator.toList ≠ [] := by
  intro nothing
  apply separated
  exact String.toList_inj.1 nothing

theorem lists_iff {call : AliasCall} (separated : call.Separated) {name : String} :
    call.Lists name ↔ name ∈ call.aliases := by
  cases call with
  | listed purl aliases => exact Iff.rfl
  | joined purl text separator =>
      have cuts := @Text.cuts_into_iff separator.toList text.toList (separator_ne_nil separated)
      simp only [Lists, cuts, exists_eq_left', aliases, ImportTable.splitAliases, Text.split,
        List.mem_map]
      constructor
      · rintro ⟨piece, member, rfl⟩
        exact ⟨_, ⟨piece, member, rfl⟩, rfl⟩
      · rintro ⟨_, ⟨piece, member, rfl⟩, rfl⟩
        exact ⟨piece, member, rfl⟩

theorem SplitsInto.purl_eq {call : AliasCall} {parts : List AliasCall}
    (splits : call.SplitsInto parts) : ∀ part ∈ parts, part.purl = call.purl := by
  intro part member
  cases splits with
  | listed purl lists =>
      rcases List.mem_map.1 member with ⟨_, _, rfl⟩
      rfl
  | joined purl text separator groups some cuts =>
      rcases List.mem_map.1 member with ⟨_, _, rfl⟩
      rfl

theorem SplitsInto.separated {call : AliasCall} {parts : List AliasCall}
    (splits : call.SplitsInto parts) (separated : call.Separated) :
    ∀ part ∈ parts, part.Separated := by
  intro part member
  cases splits with
  | listed purl lists =>
      rcases List.mem_map.1 member with ⟨_, _, rfl⟩
      trivial
  | joined purl text separator groups some cuts =>
      rcases List.mem_map.1 member with ⟨_, _, rfl⟩
      exact separated

theorem SplitsInto.lists_iff {call : AliasCall} {parts : List AliasCall}
    (splits : call.SplitsInto parts) (separated : call.Separated) {name : String} :
    call.Lists name ↔ ∃ part ∈ parts, part.Lists name := by
  cases splits with
  | listed purl lists => simp [Lists, List.mem_flatten]
  | joined purl text separator groups some cuts =>
      have nonempty := separator_ne_nil separated
      have whole (pieces : List (List Char)) :
          Text.CutsInto separator.toList text.toList pieces ↔ groups.flatten = pieces := by
        rw [Text.cuts_into_iff nonempty, (Text.cuts_into_iff nonempty).1 cuts]
      have own (group : List (List Char)) (member : group ∈ groups) (pieces : List (List Char)) :
          Text.CutsInto separator.toList (separator.toList.intercalate group) pieces ↔
            group = pieces := by
        have within : group <:+: groups.flatten := by
          rcases List.append_of_mem member with ⟨before, after, same⟩
          exact ⟨before.flatten, after.flatten, by simp [same]⟩
        have grouped := cuts.group nonempty within (some group member)
        rw [Text.cuts_into_iff nonempty, (Text.cuts_into_iff nonempty).1 grouped]
      simp only [Lists, whole, exists_eq_left', List.mem_flatten, List.mem_map]
      constructor
      · rintro ⟨piece, ⟨group, inGroups, inGroup⟩, rfl⟩
        refine ⟨_, ⟨group, inGroups, rfl⟩, group, ?_, piece, inGroup, rfl⟩
        rw [String.toList_ofList, own group inGroups]
      · rintro ⟨_, ⟨group, inGroups, rfl⟩, pieces, cut, piece, member, rfl⟩
        rw [String.toList_ofList, own group inGroups] at cut
        rw [← cut] at member
        exact ⟨piece, ⟨group, inGroups, member⟩, rfl⟩

end AliasCall

namespace ImportTable

open AliasCall

/-! ### All calls -/

def ofCalls (calls : List AliasCall) : ImportTable := calls.foldl AliasCall.apply ∅

def Holds (table : ImportTable) (purl name : String) : Prop :=
  ∃ names, table.aliases.get? purl = some names ∧ name ∈ names

def Shown (table : ImportTable) : Prop :=
  ∀ purl names, table.aliases.get? purl = some names →
    names ≠ [] ∧ ∀ name ∈ names, Text.allBlank name = false

theorem mem_shown {aliases : List String} {name : String} :
    name ∈ (aliases.filter fun name => !Text.allBlank name) ↔
      name ∈ aliases ∧ Text.allBlank name = false := by
  rw [List.mem_filter, Bool.not_eq_true']

theorem insert_shown {table : ImportTable} (purl : String) (aliases : List String)
    (shown : table.Shown) : (table.insert purl aliases).Shown := by
  rw [insert]
  split
  · exact shown
  · rename_i some
    intro key names found
    rw [TextMap.get_alter] at found
    split at found
    · cases found
      constructor
      · apply List.append_ne_nil_of_right_ne_nil
        simpa using some
      · intro name member
        rcases List.mem_append.1 member with held | added
        · cases old : table.aliases.get? purl with
          | none =>
              rw [old] at held
              cases held
          | some names =>
              rw [old] at held
              exact (shown purl names old).2 name held
        · exact (mem_shown.1 added).2
    · exact shown key names found

theorem holds_insert (table : ImportTable) (asked : String) (aliases : List String)
    (purl name : String) : (table.insert asked aliases).Holds purl name ↔
      table.Holds purl name ∨ asked = purl ∧ name ∈ aliases ∧ Text.allBlank name = false := by
  rw [← mem_shown, insert]
  split
  · rename_i nothing
    rw [List.isEmpty_iff.1 nothing]
    simp
  · rw [Holds, TextMap.get_alter]
    by_cases same : purl = asked
    · rw [if_pos same, same]
      simp only [Option.some.injEq, exists_eq_left', List.mem_append, true_and]
      apply or_congr_left
      rw [Holds]
      cases table.aliases.get? asked <;> simp
    · rw [if_neg same]
      simp [Holds, Ne.symm same]

theorem calls_hold {calls : List AliasCall} (separated : ∀ call ∈ calls, call.Separated)
    (purl name : String) : (ofCalls calls).Shown ∧ ((ofCalls calls).Holds purl name ↔
      ∃ call ∈ calls, call.Contributes purl name) := by
  have start : (∅ : ImportTable).Shown := by
    intro purl names found
    cases found
  have keeps : ∀ (table : ImportTable), ∀ call ∈ calls, table.Shown →
      (call.apply table).Shown := by
    intro table call _ shown
    rw [apply_eq]
    exact insert_shown call.purl call.aliases shown
  have grows : ∀ (table : ImportTable), ∀ call ∈ calls, table.Shown →
      ((call.apply table).Holds purl name ↔
        table.Holds purl name ∨ call.Contributes purl name) := by
    intro table call member _
    rw [apply_eq, holds_insert, ← lists_iff (separated call member)]
    apply or_congr_right
    constructor
    · rintro ⟨package, lists, shown⟩
      exact ⟨package, lists, shown⟩
    · intro contributes
      exact ⟨contributes.package, contributes.lists, contributes.shown⟩
  have run := foldl_grows Shown (Holds · purl name) keeps grows ∅ start
  refine ⟨run.1, run.2.trans (or_iff_right ?_)⟩
  rintro ⟨names, found, _⟩
  cases found

theorem mem_purls_for {table : ImportTable} {rule : AliasMatch} {symbol purl : String} :
    purl ∈ table.purlsFor rule symbol ↔
      ∃ name, table.Holds purl name ∧ rule.Names name symbol := by
  rw [TextSet.mem_def]
  apply TextMap.mem_filter_keys.trans
  simp only [List.any_eq_true, AliasMatch.names_iff]
  constructor
  · rintro ⟨names, found, name, member, named⟩
    exact ⟨name, ⟨names, found, member⟩, named⟩
  · rintro ⟨name, ⟨names, found, member⟩, named⟩
    exact ⟨names, found, name, member, named⟩

theorem is_empty_iff {table : ImportTable} (shown : table.Shown) :
    table.isEmpty = true ↔ ∀ purl name, ¬table.Holds purl name := by
  rw [isEmpty, TextMap.isEmpty, List.isEmpty_iff]
  constructor
  · rintro nothing purl name ⟨names, found, _⟩
    have listed := TextMap.mem_entries_iff.2 found
    rw [nothing] at listed
    cases listed
  · intro nothing
    apply List.eq_nil_iff_forall_not_mem.2
    rintro ⟨purl, names⟩ listed
    have found := TextMap.mem_entries_iff.1 listed
    rcases List.exists_mem_of_ne_nil names (shown purl names found).1 with ⟨name, member⟩
    exact nothing purl name ⟨names, found, member⟩

theorem mem_purls_for_calls {calls : List AliasCall} (separated : ∀ call ∈ calls, call.Separated)
    {rule : AliasMatch} {symbol purl : String} :
    purl ∈ (ofCalls calls).purlsFor rule symbol ↔
      ∃ call ∈ calls, ∃ name, call.Contributes purl name ∧ rule.Names name symbol := by
  simp only [mem_purls_for, fun name => (calls_hold separated purl name).2]
  constructor
  · rintro ⟨name, ⟨call, member, contributes⟩, named⟩
    exact ⟨call, member, name, contributes, named⟩
  · rintro ⟨call, member, name, contributes, named⟩
    exact ⟨name, ⟨call, member, contributes⟩, named⟩

/-- Calls that contribute the same aliases make tables with the same answers. -/
theorem purls_for_congr {calls others : List AliasCall}
    (separated : ∀ call ∈ calls, call.Separated) (othersSeparated : ∀ call ∈ others, call.Separated)
    (same : ∀ purl name, (∃ call ∈ others, call.Contributes purl name) ↔
      ∃ call ∈ calls, call.Contributes purl name) (rule : AliasMatch) (symbol : String) :
    (ofCalls others).purlsFor rule symbol = (ofCalls calls).purlsFor rule symbol := by
  ext purl
  simp only [mem_purls_for, fun name => (calls_hold separated purl name).2,
    fun name => (calls_hold othersSeparated purl name).2, same]

theorem purls_for_spread {before after parts : List AliasCall} {call : AliasCall}
    (separated : ∀ other ∈ before ++ call :: after, other.Separated)
    (package : ∀ part ∈ parts, part.Separated ∧ part.purl = call.purl)
    (lists : ∀ name, call.Lists name ↔ ∃ part ∈ parts, part.Lists name) (rule : AliasMatch)
    (symbol : String) : (ofCalls (before ++ parts ++ after)).purlsFor rule symbol =
      (ofCalls (before ++ call :: after)).purlsFor rule symbol := by
  apply purls_for_congr separated
  · intro other member
    rcases List.mem_append.1 member with front | behind
    · rcases List.mem_append.1 front with earlier | among
      · exact separated other (List.mem_append_left _ earlier)
      · exact (package other among).1
    · exact separated other (List.mem_append_right _ (List.mem_cons_of_mem _ behind))
  · intro purl name
    have spread : (∃ part ∈ parts, part.Contributes purl name) ↔ call.Contributes purl name := by
      constructor
      · rintro ⟨part, member, own, listed, shown⟩
        rw [(package part member).2] at own
        exact ⟨own, (lists name).2 ⟨part, member, listed⟩, shown⟩
      · rintro ⟨own, listed, shown⟩
        rcases (lists name).1 listed with ⟨part, member, listed⟩
        exact ⟨part, member, (package part member).2.trans own, listed, shown⟩
    simp only [List.mem_append, List.mem_cons, or_and_right, exists_or, exists_eq_left, spread,
      or_assoc]

structure Answers (calls : List AliasCall) : Prop where
  empty : (ofCalls calls).isEmpty = true ↔
    ∀ call ∈ calls, ∀ purl name, ¬call.Contributes purl name
  shown : ∀ purl names, (ofCalls calls).aliases.get? purl = some names →
    names ≠ [] ∧ ∀ name ∈ names, Text.allBlank name = false
  found : ∀ rule symbol purl, purl ∈ (ofCalls calls).purlsFor rule symbol ↔
    ∃ call ∈ calls, ∃ name, call.Contributes purl name ∧ rule.Names name symbol
  reordered : ∀ others, calls.Perm others → ∀ rule symbol,
    (ofCalls others).purlsFor rule symbol = (ofCalls calls).purlsFor rule symbol
  spread : ∀ before call after parts, calls = before ++ call :: after →
    (∀ part ∈ parts, part.Separated ∧ part.purl = call.purl) →
    (∀ name, call.Lists name ↔ ∃ part ∈ parts, part.Lists name) →
    ∀ rule symbol, (ofCalls (before ++ parts ++ after)).purlsFor rule symbol =
      (ofCalls calls).purlsFor rule symbol
  split : ∀ before call after parts, calls = before ++ call :: after → call.SplitsInto parts →
    ∀ rule symbol, (ofCalls (before ++ parts ++ after)).purlsFor rule symbol =
      (ofCalls calls).purlsFor rule symbol

/-- After any calls with separators that are not empty, the table is empty exactly if no alias was
contributed, it has no package without aliases and no blank alias, and it finds the packages with a
contributed alias for a symbol, whatever the order of the calls and however they are split. -/
theorem answers_of_calls {calls : List AliasCall}
    (separated : ∀ call ∈ calls, call.Separated) : Answers calls := by
  constructor
  case empty =>
    rw [is_empty_iff (calls_hold separated "" "").1]
    simp only [fun purl name => (calls_hold separated purl name).2]
    constructor
    · intro nothing call member purl name contributes
      exact nothing purl name ⟨call, member, contributes⟩
    · rintro nothing purl name ⟨call, member, contributes⟩
      exact nothing call member purl name contributes
  case shown => exact (calls_hold separated "" "").1
  case found =>
    intro rule symbol purl
    exact mem_purls_for_calls separated
  case reordered =>
    intro others perm
    apply purls_for_congr separated
    · intro call member
      exact separated call (perm.mem_iff.2 member)
    · intro purl name
      simp only [perm.mem_iff]
  case spread =>
    rintro before call after parts rfl package lists
    exact purls_for_spread separated package lists
  case split =>
    rintro before call after parts rfl splits
    have own : call.Separated := separated call (by simp)
    apply purls_for_spread separated
    · intro part member
      exact ⟨splits.separated own part member, splits.purl_eq part member⟩
    · intro name
      exact splits.lists_iff own

def sampleCalls : List AliasCall :=
  [.joined "pkg:gem/faraday@2.7.0" "Faraday, Faraday::Connection" ", ",
    .listed "pkg:gem/rack@3.0.0" ["", " "]]

theorem answers_of_sample : (∀ call ∈ sampleCalls, call.Separated) ∧
    (ofCalls sampleCalls).isEmpty = false ∧ Answers sampleCalls :=
  ⟨by decide, by decide, answers_of_calls (by decide)⟩

end ImportTable

end BomEvidence
