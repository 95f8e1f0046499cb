import BomEvidence.Bom.Codec
import BomEvidence.Proofs.Json.Canonical

/-!
Records that are read back as they were written. An object of fields and other members is
taken apart into the same fields and members, where no field is among the others.
-/

namespace BomEvidence

namespace Json

/-- Members beside the fields of a record: none has the name of a field, and all of them are
read back as they are written. -/
structure Others (names : List String) (extra : TextMap Json) : Prop where
  apart : ∀ name ∈ names, extra.get? name = none
  canonical : ∀ key value, extra.get? key = some value → value.Canonical

theorem Others.none (names : List String) : Others names ∅ :=
  ⟨fun _ _ => rfl, fun _ _ held => by cases held⟩

theorem Others.erase {names : List String} {extra : TextMap Json} (others : Others names extra)
    (key : String) : Others names (extra.erase key) := by
  constructor
  · intro name member
    rw [TextMap.get_erase, others.apart name member]
    split <;> rfl
  · intro name value held
    rw [TextMap.get_erase] at held
    split at held
    · cases held
    · exact others.canonical name value held

theorem others_of_open_record {names : List String} {source : Tree} {known : Tree.Fields}
    {extra : TextMap Json} (opened : source.openRecord? names = some (known, extra)) :
    Others names extra := by
  cases source with
  | object members =>
      simp only [Tree.openRecord?, Option.bind_eq_bind, Option.bind_eq_some_iff] at opened
      obtain ⟨values, read, rest⟩ := opened
      split at rest
      · cases rest
        have unknown : ∀ entry ∈ values, entry.1 ∉ names := by
          intro entry member
          have key : entry.1 ∈ values.map Prod.fst := List.mem_map_of_mem member
          rw [keys_of_member_values read] at key
          obtain ⟨other, among, same⟩ := List.mem_map.1 key
          exact same ▸ of_decide_eq_true (List.mem_filter.1 among).2
        constructor
        · intro name member
          cases held : (TextMap.ofList values).get? name with
          | none => rfl
          | some value => exact absurd member (unknown _ (TextMap.mem_of_get_of_list held))
        · intro key value held
          exact canonical_of_member_values _ read (key, value) (TextMap.mem_of_get_of_list held)
      · cases rest
  | _ => cases opened

def membersOf : List (String × Option Json) → TextMap Json → TextMap Json
  | [], members => members
  | (name, some value) :: rest, members => membersOf rest (members.insert name value)
  | (_, none) :: rest, members => membersOf rest members

theorem of_fields_eq (fields : List (String × Option Json)) (extra : TextMap Json) :
    ofFields fields extra = ofMap (membersOf fields extra) := by
  unfold ofFields
  congr 1
  induction fields generalizing extra with
  | nil => rfl
  | cons field rest ih =>
      obtain ⟨name, value⟩ := field
      cases value with
      | none => exact ih extra
      | some value => exact ih (extra.insert name value)

theorem get_members_of {fields : List (String × Option Json)} (nodup : (fields.map Prod.fst).Nodup)
    (extra : TextMap Json) (key : String) :
    (membersOf fields extra).get? key = ((fields.lookup key).join).or (extra.get? key) := by
  induction fields generalizing extra with
  | nil => rfl
  | cons field rest ih =>
      obtain ⟨name, value⟩ := field
      obtain ⟨fresh, nodupRest⟩ := List.nodup_cons.1 nodup
      rw [TextMap.lookup_entry_cons]
      cases value with
      | none =>
          rw [membersOf, ih nodupRest]
          by_cases same : key = name
          · subst same
            rw [if_pos rfl, TextMap.lookup_of_not_mem fresh]
            rfl
          · rw [if_neg same]
      | some value =>
          rw [membersOf, ih nodupRest, TextMap.get_insert]
          by_cases same : key = name
          · subst same
            rw [if_pos rfl, if_pos rfl, TextMap.lookup_of_not_mem fresh]
            rfl
          · rw [if_neg same, if_neg same]

theorem open_record_of_fields {names : List String} {fields : List (String × Option Json)}
    {extra : TextMap Json} (named : fields.map Prod.fst = names) (nodup : names.Nodup)
    (others : Others names extra) :
    ∃ known, (ofFields fields extra).tree.openRecord? names = some (known, extra) ∧
      ∀ name ∈ names, known.lookup name = ((fields.lookup name).join).map tree := by
  let members := membersOf fields extra
  let trees := members.mapValues tree
  have held : ∀ key, members.get? key = ((fields.lookup key).join).or (extra.get? key) :=
    get_members_of (named ▸ nodup) extra
  have unnamed : ∀ key, key ∉ names → members.get? key = extra.get? key := by
    intro key outside
    rw [held, TextMap.lookup_of_not_mem (named ▸ outside)]
    rfl
  have written : (ofFields fields extra).tree = .object trees.entries := by
    rw [of_fields_eq, ofMap, tree, member_trees_eq]
    rfl
  have rest : members.filter (fun key _ => decide (key ∉ names)) = extra := by
    ext key : 1
    rw [TextMap.get_filter_key]
    by_cases inside : key ∈ names
    · simp [inside, others.apart key inside]
    · simp [inside, unnamed key inside]
  have read : Tree.memberValues? (trees.entries.filter fun member => member.1 ∉ names) =
      some extra.entries := by
    have shape : (trees.entries.filter fun member => member.1 ∉ names) = memberTrees extra.entries := by
      rw [member_trees_eq, ← rest]
      exact List.filter_map ..
    rw [shape]
    apply member_values_member_trees
    intro member among
    exact others.canonical member.1 member.2 (TextMap.mem_entries_iff.1 among)
  refine ⟨trees.entries.filter fun member => member.1 ∈ names, ?_, ?_⟩
  · have nodupKnown : ((trees.entries.filter fun member => member.1 ∈ names).map Prod.fst).Nodup :=
      (trees.keys_nodup).sublist (List.filter_sublist.map Prod.fst)
    rw [written]
    simp only [Tree.openRecord?]
    rw [read, Option.bind_eq_bind, Option.bind_some, if_pos nodupKnown, TextMap.of_list_entries]
  · intro name inside
    have found := TextMap.get_filter_key trees (fun key => decide (key ∈ names)) name
    rw [if_pos (decide_eq_true inside), TextMap.get_map_values, held,
      others.apart name inside, Option.or_none] at found
    exact found

theorem record_of_fields {names : List String} {fields : List (String × Option Json)}
    (named : fields.map Prod.fst = names) (nodup : names.Nodup) :
    ∃ known, (ofFields fields ∅).tree.record? names = some known ∧
      ∀ name ∈ names, known.lookup name = ((fields.lookup name).join).map tree := by
  obtain ⟨known, opened, held⟩ := open_record_of_fields named nodup (Others.none names)
  refine ⟨known, ?_, held⟩
  rw [of_fields_eq, ofMap, tree] at opened ⊢
  simp only [Tree.openRecord?, Option.bind_eq_bind, Option.bind_eq_some_iff] at opened
  obtain ⟨_, _, rest⟩ := opened
  simp only [Tree.record?]
  split at rest
  · rename_i unique
    rw [if_pos unique]
    exact congrArg (Option.map Prod.fst) rest
  · cases rest

theorem record_of_members {names : List String} {members : List (String × Json)}
    (inside : ∀ member ∈ members, member.1 ∈ names) (nodup : (members.map Prod.fst).Nodup) :
    (object members).tree.record? names = some (memberTrees members) := by
  have all : (memberTrees members).filter (fun member => member.1 ∈ names) = memberTrees members := by
    rw [List.filter_eq_self, member_trees_eq]
    intro member among
    obtain ⟨other, held, rfl⟩ := List.mem_map.1 among
    exact decide_eq_true (inside other held)
  have keys : ((memberTrees members).map Prod.fst).Nodup := by
    rw [member_trees_eq, List.map_map]
    exact nodup
  rw [tree, Tree.record?, all, if_pos keys]

theorem of_fields_present (fields : List (String × Option Json)) (extra : TextMap Json) :
    (ofFields fields extra).tree ≠ .null := by
  rw [of_fields_eq, ofMap, tree]
  intro isNull
  cases isNull

/-- A reader gets an item back from what was written of it, which is not `null`. -/
structure Reads {Item : Type} (read : Tree.Reader Item) (write : Item → Json) (item : Item) :
    Prop where
  back : read (write item).tree = some item
  present : (write item).tree ≠ .null

variable {Item : Type} {read : Tree.Reader Item} {write : Item → Json}

theorem reads_text (text : String) : Reads .text? .text text := ⟨rfl, by simp [tree]⟩

theorem reads_bool (value : Bool) : Reads .bool? .bool value := ⟨rfl, by simp [tree]⟩

theorem reads_word (word : UInt64) : Reads .word? ofWord word := by
  constructor
  · have bound : word.toNat < Tree.wordLimit := word.toNat_lt
    simp only [ofWord, ofNat, tree, Tree.Reader.word?, Int.toNat_natCast]
    simp [bound]
  · simp [ofWord, ofNat, tree]

theorem reads_list {items : List Item} (each : ∀ item ∈ items, read (write item).tree = some item) :
    Reads (.list? read) (.ofList write) items := by
  constructor
  · rw [ofList, tree, item_trees_eq, Tree.Reader.list?]
    induction items with
    | nil => rfl
    | cons item rest ih =>
        have others := ih fun other member => each other (List.mem_cons_of_mem _ member)
        simp only [List.map_cons, List.mapM_cons, each item List.mem_cons_self, others]
        rfl
  · simp [ofList, tree]

theorem reads_texts (texts : List String) : Reads (.list? .text?) Bom.textsJson texts :=
  reads_list fun text _ => (reads_text text).back

theorem optional_of_lookup {fields : Tree.Fields} {name : String} {item : Option Item}
    (held : fields.lookup name = (item.map write).map tree)
    (reads : ∀ present, item = some present → Reads read write present) :
    fields.optional? name read = some item := by
  unfold Tree.Fields.optional? Tree.Fields.withDefault?
  rw [held]
  cases item with
  | none => rfl
  | some present =>
      obtain ⟨back, notNull⟩ := reads present rfl
      dsimp only [Option.map_some]
      unfold Tree.Reader.option?
      split
      · rename_i isNull
        exact absurd isNull notNull
      · rw [back]
        rfl

theorem optional_any_of_lookup {fields : Tree.Fields} {name : String} {value : Option Json}
    (held : fields.lookup name = value.map tree)
    (kept : ∀ present, value = some present → present.Canonical ∧ present ≠ .null) :
    fields.optional? name .any? = some value := by
  have same : value.map tree = (value.map id).map tree := by rw [Option.map_id]; rfl
  refine optional_of_lookup (held.trans same) fun present isPresent => ?_
  obtain ⟨canonical, notNull⟩ := kept present isPresent
  refine ⟨canonical, fun isNull => notNull ?_⟩
  cases present with
  | null => rfl
  | _ => simp [tree] at isNull

theorem required_of_lookup {fields : Tree.Fields} {name : String} {item : Item}
    (held : fields.lookup name = some (write item).tree)
    (back : read (write item).tree = some item) : fields.required? name read = some item := by
  rw [Tree.Fields.required?, held]
  exact back

theorem with_default_of_lookup {fields : Tree.Fields} {name : String} {item : Item}
    (held : fields.lookup name = some (write item).tree)
    (back : read (write item).tree = some item) (default : Item) :
    fields.withDefault? name read default = some item := by
  rw [Tree.Fields.withDefault?, held]
  exact back

/-! ### What a reader answers was read somewhere -/

def Tree.Lists (source part : Tree) : Prop := ∃ parts, source = .array parts ∧ part ∈ parts

theorem read_of_list {source : Tree} {items : List Item}
    (listed : Tree.Reader.list? read source = some items) :
    ∀ item ∈ items, ∃ part, source.Lists part ∧ read part = some item := by
  cases source with
  | array parts =>
      have inParts : ∀ item ∈ items, ∃ part ∈ parts, read part = some item := by
        rw [Tree.Reader.list?] at listed
        induction parts generalizing items with
        | nil =>
            cases listed
            exact fun _ member => absurd member List.not_mem_nil
        | cons part rest ih =>
            simp only [List.mapM_cons, Option.bind_eq_bind, Option.bind_eq_some_iff] at listed
            obtain ⟨first, partRead, others, restRead, made⟩ := listed
            cases made
            intro item member
            rcases List.mem_cons.1 member with rfl | member
            · exact ⟨part, List.mem_cons_self, partRead⟩
            · obtain ⟨other, among, otherRead⟩ := ih restRead item member
              exact ⟨other, List.mem_cons_of_mem part among, otherRead⟩
      intro item member
      obtain ⟨part, among, partRead⟩ := inParts item member
      exact ⟨part, ⟨parts, rfl, among⟩, partRead⟩
  | _ => cases listed

theorem read_of_optional {fields : Tree.Fields} {name : String} {item : Item}
    (present : fields.optional? name read = some (some item)) :
    ∃ part, fields.lookup name = some part ∧ read part = some item := by
  unfold Tree.Fields.optional? Tree.Fields.withDefault? at present
  split at present
  · rename_i part held
    unfold Tree.Reader.option? at present
    split at present
    · cases present
    · obtain ⟨other, partRead, same⟩ := Option.map_eq_some_iff.1 present
      cases same
      exact ⟨_, held, partRead⟩
  · cases present

theorem read_of_optional_list {fields : Tree.Fields} {name : String} {items : List Item}
    (present : fields.optional? name (.list? read) = some (some items)) :
    ∀ item ∈ items, ∃ list part, fields.lookup name = some list ∧ list.Lists part ∧
      read part = some item := by
  obtain ⟨list, held, listed⟩ := read_of_optional present
  intro item member
  obtain ⟨part, among, partRead⟩ := read_of_list listed item member
  exact ⟨list, part, held, among, partRead⟩

theorem read_of_list_of {fields : Tree.Fields} {name : String} {items : List Item}
    (listed : fields.listOf? name read = some items) :
    ∀ item ∈ items, ∃ list part, fields.lookup name = some list ∧ list.Lists part ∧
      read part = some item := by
  unfold Tree.Fields.listOf? Tree.Fields.withDefault? at listed
  split at listed
  · rename_i list held
    intro item member
    obtain ⟨part, among, partRead⟩ := read_of_list listed item member
    exact ⟨list, part, held, among, partRead⟩
  · cases listed
    exact fun _ member => absurd member List.not_mem_nil

section Holds

variable {fields : Tree.Fields} {name : String} {Holds : Item → Prop}

theorem holds_of_optional {value : Option Item} (answer : fields.optional? name read = some value)
    (each : ∀ {part item}, fields.lookup name = some part → read part = some item → Holds item) :
    ∀ item, value = some item → Holds item := by
  intro item present
  rw [present] at answer
  obtain ⟨part, held, partRead⟩ := read_of_optional answer
  exact each held partRead

theorem holds_of_optional_list {value : Option (List Item)}
    (answer : fields.optional? name (.list? read) = some value)
    (each : ∀ {list part item}, fields.lookup name = some list → list.Lists part →
      read part = some item → Holds item) :
    ∀ items, value = some items → ∀ item ∈ items, Holds item := by
  intro items present item member
  rw [present] at answer
  obtain ⟨list, part, held, among, partRead⟩ := read_of_optional_list answer item member
  exact each held among partRead

theorem holds_of_list_of {items : List Item} (answer : fields.listOf? name read = some items)
    (each : ∀ {list part item}, fields.lookup name = some list → list.Lists part →
      read part = some item → Holds item) : ∀ item ∈ items, Holds item := by
  intro item member
  obtain ⟨list, part, held, among, partRead⟩ := read_of_list_of answer item member
  exact each held among partRead

end Holds

theorem null_of_value {source : Tree} (read : source.value? = some .null) : source = .null := by
  cases source with
  | null => rfl
  | array items =>
      rw [Tree.value?] at read
      obtain ⟨_, _, made⟩ := Option.map_eq_some_iff.1 read
      cases made
  | object members =>
      rw [Tree.value?] at read
      obtain ⟨_, _, made⟩ := Option.map_eq_some_iff.1 read
      cases made
  | _ => cases read

theorem kept_of_optional_any {fields : Tree.Fields} {name : String} {value : Option Json}
    (answer : fields.optional? name .any? = some value) :
    ∀ kept, value = some kept → kept.Canonical ∧ kept ≠ .null := by
  intro kept present
  rw [present] at answer
  unfold Tree.Fields.optional? Tree.Fields.withDefault? at answer
  split at answer
  · unfold Tree.Reader.option? at answer
    split at answer
    · cases answer
    · rename_i notNull
      obtain ⟨other, partRead, same⟩ := Option.map_eq_some_iff.1 answer
      cases same
      refine ⟨canonical_of_value _ partRead, fun isNull => notNull ?_⟩
      exact null_of_value (isNull ▸ partRead)
  · cases answer

/-! ### Parts that are replaced -/

section Parts

variable {Part : Type} {change : Part → Part} {Holds : Part → Prop}

theorem optional_holds (keeps : ∀ part, Holds part → Holds (change part)) {optional : Option Part}
    (held : ∀ part, optional = some part → Holds part) :
    ∀ part, optional.map change = some part → Holds part := by
  intro part present
  obtain ⟨before, isBefore, rfl⟩ := Option.map_eq_some_iff.1 present
  exact keeps before (held before isBefore)

theorem optional_list_holds (keeps : ∀ part, Holds part → Holds (change part))
    {optional : Option (List Part)}
    (held : ∀ parts, optional = some parts → ∀ part ∈ parts, Holds part) :
    ∀ parts, optional.map (·.map change) = some parts → ∀ part ∈ parts, Holds part := by
  apply optional_holds ?_ held
  intro parts each
  exact List.forall_mem_map.2 fun part member => keeps part (each part member)

end Parts

end Json

end BomEvidence
