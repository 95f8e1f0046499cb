import BomEvidence.Proofs.Json.Record
import Mathlib.Data.List.Forall2
import Mathlib.Data.List.Induction

/-!
The members of records between reading and writing. Of a repeated key the last member counts. A
record that keeps its other members writes each with the value that was read, and a field that is
read by one codec is written by it.
-/

namespace BomEvidence

namespace TextMap

variable {Value : Type}

theorem get_of_list (entries : List (String × Value)) (key : String) :
    (ofList entries).get? key = entries.reverse.lookup key := by
  induction entries using List.reverseRecOn with
  | nil => rfl
  | append_singleton earlier entry ih =>
      rw [List.reverse_append, List.reverse_singleton, List.singleton_append, lookup_entry_cons, ← ih]
      unfold ofList
      rw [List.foldl_append]
      exact get_insert ..

theorem lookup_filter_key (entries : List (String × Value)) (keep : String → Bool) (key : String) :
    (entries.filter fun entry => keep entry.1).lookup key =
      if keep key then entries.lookup key else none := by
  induction entries with
  | nil => simp
  | cons head rest ih =>
      rw [lookup_entry_cons, List.filter_cons]
      by_cases same : key = head.1
      · subst same
        cases kept : keep head.1 with
        | true => simp [lookup_entry_cons]
        | false =>
            rw [if_neg Bool.false_ne_true, ih, kept, if_neg Bool.false_ne_true,
              if_neg Bool.false_ne_true]
      · cases keep head.1 <;> simp [same, ih, lookup_entry_cons]

theorem lookup_reverse {entries : List (String × Value)} (nodup : (entries.map Prod.fst).Nodup)
    (key : String) : entries.reverse.lookup key = entries.lookup key := by
  induction entries with
  | nil => rfl
  | cons head rest ih =>
      obtain ⟨fresh, nodupRest⟩ := List.nodup_cons.1 nodup
      rw [List.reverse_cons, List.lookup_append, ih nodupRest, lookup_entry_cons, lookup_entry_cons]
      by_cases same : key = head.1
      · subst same
        rw [lookup_of_not_mem fresh]
        simp
      · simp [same]

end TextMap

namespace Json

def Tree.member? (source : Tree) (key : String) : Option Tree :=
  match source with
  | .object members => members.reverse.lookup key
  | _ => none

def Tree.item? (source : Tree) (position : Nat) : Option Tree :=
  match source with
  | .array items => items[position]?
  | _ => none

/-- From an object to a part of it: a member, or an item of the array that is this member. -/
structure Step where
  field : String
  position : Option Nat
  deriving DecidableEq, Repr

def Tree.step? (source : Tree) (step : Step) : Option Tree :=
  (source.member? step.field).bind fun part =>
    match step.position with
    | none => some part
    | some position => part.item? position

def step? (value : Json) (step : Step) : Option Json :=
  (value.member? step.field).bind fun part =>
    match step.position with
    | none => some part
    | some position => part.item? position

def Tree.at? (source : Tree) (place : List Step) : Option Tree := place.foldlM Tree.step? source

def at? (value : Json) (place : List Step) : Option Json := place.foldlM step? value

theorem member_values_forall {members : List (String × Tree)} {values : List (String × Json)}
    (read : Tree.memberValues? members = some values) :
    List.Forall₂ (fun member value => member.1 = value.1 ∧ member.2.value? = some value.2) members
      values := by
  induction members generalizing values with
  | nil =>
      cases read
      exact .nil
  | cons member rest ih =>
      simp only [Tree.memberValues?, Option.bind_eq_bind, Option.bind_eq_some_iff,
        Option.some.injEq] at read
      obtain ⟨first, firstRead, others, restRead, rfl⟩ := read
      exact .cons ⟨rfl, firstRead⟩ (ih restRead)

theorem lookup_of_forall {members : List (String × Tree)} {values : List (String × Json)}
    (read : List.Forall₂ (fun member value => member.1 = value.1 ∧
      member.2.value? = some value.2) members values) {key : String} {item : Tree}
    (found : members.lookup key = some item) :
    ∃ value, item.value? = some value ∧ values.lookup key = some value := by
  induction read with
  | nil => cases found
  | cons same _ ih =>
      rw [TextMap.lookup_entry_cons] at found ⊢
      rw [← same.1]
      split at found
      · rename_i isHead
        cases found
        exact ⟨_, same.2, if_pos isHead⟩
      · rename_i notHead
        rw [if_neg notHead]
        exact ih found

section OpenRecords

variable {names : List String} {source : Tree} {known : Tree.Fields} {extra : TextMap Json}

theorem member_of_open_record (opened : source.openRecord? names = some (known, extra))
    {name : String} (inside : name ∈ names) : source.member? name = known.lookup name := by
  cases source with
  | object members =>
      simp only [Tree.openRecord?, Option.bind_eq_bind, Option.bind_eq_some_iff] at opened
      obtain ⟨_, _, rest⟩ := opened
      split at rest
      · rename_i nodup
        cases rest
        have filtered := TextMap.lookup_filter_key members.reverse (fun key => decide (key ∈ names))
          name
        rw [if_pos (decide_eq_true inside), List.filter_reverse,
          TextMap.lookup_reverse nodup] at filtered
        exact filtered.symm
      · cases rest
  | _ => cases opened

theorem extra_of_open_record (opened : source.openRecord? names = some (known, extra))
    {key : String} (outside : key ∉ names) {item : Tree} (found : source.member? key = some item) :
    ∃ value, item.value? = some value ∧ extra.get? key = some value := by
  cases source with
  | object members =>
      simp only [Tree.openRecord?, Option.bind_eq_bind, Option.bind_eq_some_iff] at opened
      obtain ⟨values, read, rest⟩ := opened
      split at rest
      · cases rest
        have filtered := TextMap.lookup_filter_key members.reverse (fun key => decide (key ∉ names))
          key
        rw [if_pos (decide_eq_true outside), List.filter_reverse] at filtered
        rw [TextMap.get_of_list]
        apply lookup_of_forall (List.rel_reverse (member_values_forall read))
        exact filtered.trans found
      · cases rest
  | _ => cases opened

variable {fields : List (String × Option Json)}

theorem member_of_fields (nodup : (fields.map Prod.fst).Nodup) (key : String) :
    (ofFields fields extra).member? key = ((fields.lookup key).join).or (extra.get? key) := by
  rw [of_fields_eq]
  exact get_members_of nodup extra key

/-- What a record keeps beside its fields is written with the value that was read. -/
theorem written_of_open_record (opened : source.openRecord? names = some (known, extra))
    (named : fields.map Prod.fst = names) (nodup : names.Nodup) {key : String}
    (outside : key ∉ names) {item : Tree} (found : source.member? key = some item) :
    ∃ value, item.value? = some value ∧ (ofFields fields extra).member? key = some value := by
  obtain ⟨value, read, held⟩ := extra_of_open_record opened outside found
  refine ⟨value, read, ?_⟩
  rw [member_of_fields (named ▸ nodup), TextMap.lookup_of_not_mem (named ▸ outside), held]
  rfl

/-! ### Fields -/

/-- A reader gets an item from a tree, and a writer makes a value of it. -/
def Rewrites {Item : Type} (read : Tree.Reader Item) (write : Item → Json) (source : Tree)
    (written : Json) : Prop := ∃ item, read source = some item ∧ write item = written

variable {Item : Type} {read : Tree.Reader Item} {write : Item → Json} {name : String}

theorem rewrites_member (opened : source.openRecord? names = some (known, extra))
    (named : fields.map Prod.fst = names) (nodup : names.Nodup) (inside : name ∈ names)
    {item : Option Item} (got : known.optional? name read = some item)
    (writes : fields.lookup name = some (item.map write)) {part : Tree}
    (found : source.member? name = some part) (present : part ≠ .null) :
    ∃ value, (ofFields fields extra).member? name = some value ∧ Rewrites read write part value := by
  rw [member_of_open_record opened inside] at found
  unfold Tree.Fields.optional? Tree.Fields.withDefault? at got
  rw [found] at got
  dsimp only at got
  unfold Tree.Reader.option? at got
  split at got
  · exact absurd rfl present
  · obtain ⟨held, partRead, rfl⟩ := Option.map_eq_some_iff.1 got
    refine ⟨write held, ?_, held, partRead, rfl⟩
    rw [member_of_fields (named ▸ nodup), writes]
    rfl

theorem rewrites_item {part inner : Tree} {value : Json} {position : Nat}
    (rewritten : Rewrites (.list? read) (.ofList write) part value)
    (found : part.item? position = some inner) :
    ∃ held, value.item? position = some held ∧ Rewrites read write inner held := by
  obtain ⟨items, listed, rfl⟩ := rewritten
  cases part with
  | array parts =>
      rw [Tree.item?] at found
      rw [Tree.Reader.list?] at listed
      rw [ofList, item?]
      induction parts generalizing items position with
      | nil => cases found
      | cons head rest ih =>
          simp only [List.mapM_cons, Option.bind_eq_bind, Option.bind_eq_some_iff] at listed
          obtain ⟨first, headRead, others, restRead, made⟩ := listed
          cases made
          cases position with
          | zero =>
              cases found
              exact ⟨write first, rfl, first, headRead, rfl⟩
          | succ position => exact ih others found restRead
  | _ => cases found

theorem rewrites_field (opened : source.openRecord? names = some (known, extra))
    (named : fields.map Prod.fst = names) (nodup : names.Nodup) (inside : name ∈ names)
    {item : Option Item} (got : known.optional? name read = some item)
    (writes : fields.lookup name = some (item.map write)) {part : Tree}
    (found : source.step? ⟨name, none⟩ = some part) (present : part ≠ .null) :
    ∃ value, (ofFields fields extra).step? ⟨name, none⟩ = some value ∧
      Rewrites read write part value := by
  obtain ⟨held, member, same⟩ := Option.bind_eq_some_iff.1 found
  cases same
  obtain ⟨value, written, rewritten⟩ :=
    rewrites_member opened named nodup inside got writes member present
  exact ⟨value, Option.bind_eq_some_iff.2 ⟨value, written, rfl⟩, rewritten⟩

theorem rewrites_listed (opened : source.openRecord? names = some (known, extra))
    (named : fields.map Prod.fst = names) (nodup : names.Nodup) (inside : name ∈ names)
    {items : Option (List Item)} (got : known.optional? name (.list? read) = some items)
    (writes : fields.lookup name = some (items.map (.ofList write))) {part : Tree} {position : Nat}
    (found : source.step? ⟨name, some position⟩ = some part) :
    ∃ value, (ofFields fields extra).step? ⟨name, some position⟩ = some value ∧
      Rewrites read write part value := by
  obtain ⟨list, member, listed⟩ := Option.bind_eq_some_iff.1 found
  have present : list ≠ .null := by
    intro isNull
    rw [isNull] at listed
    cases listed
  obtain ⟨value, written, rewritten⟩ :=
    rewrites_member opened named nodup inside got writes member present
  obtain ⟨held, item, itemRewritten⟩ := rewrites_item rewritten listed
  exact ⟨held, Option.bind_eq_some_iff.2 ⟨value, written, item⟩, itemRewritten⟩

theorem rewrites_of_list (opened : source.openRecord? names = some (known, extra))
    (named : fields.map Prod.fst = names) (nodup : names.Nodup) (inside : name ∈ names)
    {items : List Item} (got : known.listOf? name read = some items)
    (writes : fields.lookup name = some (if items.isEmpty then none else some (.ofList write items)))
    {part : Tree} {position : Nat} (found : source.step? ⟨name, some position⟩ = some part) :
    ∃ value, (ofFields fields extra).step? ⟨name, some position⟩ = some value ∧
      Rewrites read write part value := by
  obtain ⟨list, member, listed⟩ := Option.bind_eq_some_iff.1 found
  rw [member_of_open_record opened inside] at member
  unfold Tree.Fields.listOf? Tree.Fields.withDefault? at got
  rw [member] at got
  have listRewritten : Rewrites (.list? read) (.ofList write) list (.ofList write items) :=
    ⟨items, got, rfl⟩
  obtain ⟨held, item, rewritten⟩ := rewrites_item listRewritten listed
  have filled : items.isEmpty = false := by
    cases items with
    | nil => cases item
    | cons => rfl
  have written : (ofFields fields extra).member? name = some (.ofList write items) := by
    rw [member_of_fields (named ▸ nodup), writes, filled]
    rfl
  exact ⟨held, Option.bind_eq_some_iff.2 ⟨_, written, item⟩, rewritten⟩

end OpenRecords

end Json

end BomEvidence
