import BomEvidence.Sorted.TextSet

/-!
Laws of maps and sets of texts: how members, entries and keys answer to the operations,
and what a fold over a list of changes adds to a property of the state.
-/

namespace BomEvidence

universe u v w

/-- A fold whose every step adds one case to a property adds the cases of all steps. The
invariant is what makes the case of a step independent of the steps before it. -/
theorem foldl_grows {State : Type u} {Item : Type v} {step : State → Item → State}
    {adds : Item → Prop} {items : List Item} (invariant holds : State → Prop)
    (keeps : ∀ state, ∀ item ∈ items, invariant state → invariant (step state item))
    (grows : ∀ state, ∀ item ∈ items, invariant state →
      (holds (step state item) ↔ holds state ∨ adds item))
    (state : State) (start : invariant state) :
    invariant (items.foldl step state) ∧
      (holds (items.foldl step state) ↔ holds state ∨ ∃ item ∈ items, adds item) := by
  induction items generalizing state with
  | nil => exact ⟨start, by simp⟩
  | cons item rest ih =>
      have next := keeps state item List.mem_cons_self start
      obtain ⟨kept, grown⟩ := ih
        (fun later other member => keeps later other (List.mem_cons_of_mem _ member))
        (fun later other member => grows later other (List.mem_cons_of_mem _ member)) _ next
      refine ⟨kept, ?_⟩
      rw [List.foldl_cons, grown, grows state item List.mem_cons_self start, or_assoc]
      simp only [List.mem_cons, exists_eq_or_imp]

theorem foldl_keeps {State : Type u} {Item : Type v} {Kept : Type w} {step : State → Item → State}
    (read : State → Kept) {items : List Item}
    (keeps : ∀ state, ∀ item ∈ items, read (step state item) = read state) (state : State) :
    read (items.foldl step state) = read state := by
  induction items generalizing state with
  | nil => rfl
  | cons item rest ih =>
      rw [List.foldl_cons, ih fun later other member => keeps later other
        (List.mem_cons_of_mem _ member)]
      exact keeps state item List.mem_cons_self

namespace TextSet

@[simp] theorem mem_to_list {set : TextSet} {text : String} : text ∈ set.toList ↔ text ∈ set :=
  Iff.rfl

@[simp] theorem not_mem_emptyset (text : String) : ¬text ∈ (∅ : TextSet) := not_mem_empty text

theorem insert_all_of_mem {set : TextSet} {texts : List String}
    (members : ∀ text ∈ texts, text ∈ set) : set.insertAll texts = set := by
  ext text
  rw [mem_insert_all, or_iff_right_iff_imp]
  exact members text

@[simp] theorem of_list_to_list (set : TextSet) : ofList set.toList = set := by
  ext text
  simp

end TextSet

namespace TextMap

variable {Value : Type u}

theorem mem_entries_iff {map : TextMap Value} {key : String} {value : Value} :
    (key, value) ∈ map.entries ↔ map.get? key = some value := by
  obtain ⟨entries, ascending⟩ := map
  simp only [get?]
  induction entries with
  | nil => simp
  | cons head rest ih =>
      obtain ⟨above, ascendingRest⟩ := List.pairwise_cons.1 ascending
      rw [lookup_entry_cons, List.mem_cons, ih ascendingRest]
      by_cases same : key = head.1
      · subst same
        rw [if_pos rfl, lookup_below above, Option.some.injEq]
        constructor
        · intro either
          rcases either with equal | missing
          · exact (congrArg Prod.snd equal).symm
          · cases missing
        · intro equal
          exact Or.inl (by rw [← equal])
      · rw [if_neg same]
        constructor
        · intro either
          rcases either with equal | found
          · exact absurd (congrArg Prod.fst equal) same
          · exact found
        · exact Or.inr

@[simp] theorem get_emptyset (key : String) : (∅ : TextMap Value).get? key = none := rfl

theorem get_filter_key (map : TextMap Value) (keep : String → Bool) (key : String) :
    (map.filter fun name _ => keep name).get? key =
      if keep key then map.get? key else none := by
  cases found : (map.filter fun name _ => keep name).get? key with
  | some value =>
      have member := mem_entries_iff.2 found
      obtain ⟨held, kept⟩ := List.mem_filter.1 member
      rw [if_pos kept, mem_entries_iff.1 held]
  | none =>
      split
      · rename_i kept
        cases held : map.get? key with
        | none => rfl
        | some value =>
            have member : (key, value) ∈ (map.filter fun name _ => keep name).entries :=
              List.mem_filter.2 ⟨mem_entries_iff.2 held, kept⟩
            rw [mem_entries_iff.1 member] at found
            cases found
      · rfl

theorem get_erase (map : TextMap Value) (erased key : String) :
    (map.erase erased).get? key = if key = erased then none else map.get? key := by
  unfold erase
  rw [get_filter_key]
  by_cases same : key = erased <;> simp [same]

@[simp] theorem erase_erase (map : TextMap Value) (key : String) :
    (map.erase key).erase key = map.erase key := by
  ext other
  simp only [get_erase]
  split <;> simp_all

theorem get_map_values {Other : Type v} (map : TextMap Value) (change : Value → Other)
    (key : String) : (map.mapValues change).get? key = (map.get? key).map change := by
  obtain ⟨entries, ascending⟩ := map
  simp only [get?, mapValues]
  induction entries with
  | nil => rfl
  | cons head rest ih =>
      rw [List.map_cons, lookup_entry_cons, lookup_entry_cons, ih (List.pairwise_cons.1 ascending).2]
      split <;> rfl

theorem lookup_of_not_mem {entries : List (String × Value)} {key : String}
    (missing : key ∉ entries.map Prod.fst) : entries.lookup key = none := by
  rw [List.lookup_eq_none_iff]
  intro entry member
  rw [bne_iff_ne]
  intro same
  exact missing (same ▸ List.mem_map_of_mem member)

theorem mem_of_lookup {entries : List (String × Value)} {key : String} {value : Value}
    (held : entries.lookup key = some value) : (key, value) ∈ entries := by
  obtain ⟨before, after, same, _⟩ := List.lookup_eq_some_iff.1 held
  simp [same]

theorem keys_nodup (map : TextMap Value) : map.keys.Nodup := by
  refine map.keys_ascending.imp ?_
  intro first second less same
  subst same
  exact String.lt_irrefl first less

/-- A text stands in the set of a key. -/
def Relates (map : TextMap TextSet) (key text : String) : Prop :=
  ∃ texts, map.get? key = some texts ∧ text ∈ texts

theorem relates_iff {map : TextMap TextSet} {key text : String} :
    map.Relates key text ↔ text ∈ (map.get? key).getD ∅ := by
  unfold Relates
  cases map.get? key <;> simp

@[simp] theorem not_relates_emptyset (key text : String) : ¬(∅ : TextMap TextSet).Relates key text := by
  simp [Relates]

/-- Texts that are added to the set of a key relate to this key, and nothing else changes. -/
theorem relates_alter (map : TextMap TextSet) (asked key text : String) (added : List String) :
    (map.alter asked fun held => (held.getD ∅).insertAll added).Relates key text ↔
      map.Relates key text ∨ asked = key ∧ text ∈ added := by
  rw [relates_iff, relates_iff, get_alter]
  by_cases same : key = asked
  · subst same
    simp [or_comm]
  · simp [same, Ne.symm same]

theorem contains_alter (map : TextMap Value) (asked key : String)
    (change : Option Value → Value) :
    (map.alter asked change).contains key = true ↔ map.contains key = true ∨ asked = key := by
  unfold contains
  rw [get_alter]
  by_cases same : key = asked
  · simp [same]
  · simp [same, Ne.symm same]

theorem of_list_entries (map : TextMap Value) : ofList map.entries = map := by
  have kept : ∀ (entries : List (String × Value)) (start : TextMap Value) (key : String),
      entries.Pairwise (fun first second => first.1 < second.1) →
      (entries.foldl (fun map entry => map.insert entry.1 entry.2) start).get? key =
        (entries.lookup key).or (start.get? key) := by
    intro entries
    induction entries with
    | nil => intro start key _; simp
    | cons head rest ih =>
        intro start key ascending
        obtain ⟨above, ascendingRest⟩ := List.pairwise_cons.1 ascending
        rw [List.foldl_cons, ih _ _ ascendingRest, get_insert, lookup_entry_cons]
        by_cases same : key = head.1
        · subst same
          simp [lookup_below above]
        · simp [same]
  ext key
  unfold ofList
  rw [kept map.entries empty key map.ascending, get_empty, Option.or_none]
  rfl

theorem mem_of_get_of_list {entries : List (String × Value)} {key : String} {value : Value}
    (found : (ofList entries).get? key = some value) : (key, value) ∈ entries := by
  have kept : ∀ (added : List (String × Value)) (start : TextMap Value),
      (added.foldl (fun map entry => map.insert entry.1 entry.2) start).get? key = some value →
      start.get? key = some value ∨ (key, value) ∈ added := by
    intro added
    induction added with
    | nil => intro start held; exact Or.inl held
    | cons head rest ih =>
        intro start held
        rcases ih _ held with first | later
        · rw [get_insert] at first
          split at first
          · rename_i same
            cases first
            exact Or.inr (by rw [same]; exact List.mem_cons_self)
          · exact Or.inl first
        · exact Or.inr (List.mem_cons_of_mem _ later)
  rcases kept entries empty found with nothing | member
  · cases nothing
  · exact member

end TextMap

end BomEvidence
