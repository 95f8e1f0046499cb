import BomEvidence.Proofs.Sorted.Laws

/-!
Folds that do not depend on the order of their items, nor on how often an item occurs, and the
changes of maps and sets of texts that are of this kind.
-/

namespace BomEvidence

universe u v

/-- Steps that can be taken in any order, and of which a second one of a kind does nothing. -/
structure Settles {State : Type u} {Item : Type v} (step : State → Item → State) : Prop where
  commutes : ∀ state first second,
    step (step state first) second = step (step state second) first
  repeats : ∀ state item, step (step state item) item = step state item

namespace Settles

variable {State : Type u} {Item : Type v} {step : State → Item → State}

theorem foldl_step (settles : Settles step) (items : List Item) (state : State) (item : Item) :
    step (items.foldl step state) item = items.foldl step (step state item) := by
  induction items generalizing state with
  | nil => rfl
  | cons head rest ih => rw [List.foldl_cons, List.foldl_cons, ih, settles.commutes]

/-- A step that a fold has taken already does nothing after it. -/
theorem foldl_absorbs (settles : Settles step) {items : List Item} {item : Item}
    (member : item ∈ items) (state : State) :
    step (items.foldl step state) item = items.foldl step state := by
  induction items generalizing state with
  | nil => cases member
  | cons head rest ih =>
      rw [List.foldl_cons]
      rcases List.mem_cons.1 member with same | later
      · rw [same, settles.foldl_step, settles.repeats]
      · exact ih later _

theorem foldl_foldl_absorbs (settles : Settles step) {items others : List Item}
    (members : ∀ item ∈ others, item ∈ items) (state : State) :
    others.foldl step (items.foldl step state) = items.foldl step state := by
  induction others with
  | nil => rfl
  | cons head rest ih =>
      rw [List.foldl_cons, settles.foldl_absorbs (members head List.mem_cons_self)]
      exact ih fun item member => members item (List.mem_cons_of_mem _ member)

theorem foldl_swap (settles : Settles step) (items others : List Item) (state : State) :
    others.foldl step (items.foldl step state) = items.foldl step (others.foldl step state) := by
  induction others generalizing state with
  | nil => rfl
  | cons head rest ih => rw [List.foldl_cons, List.foldl_cons, settles.foldl_step, ih]

/-- Only the set of the items counts. -/
theorem foldl_eq (settles : Settles step) {items others : List Item}
    (same : ∀ item, item ∈ items ↔ item ∈ others) (state : State) :
    items.foldl step state = others.foldl step state := by
  calc items.foldl step state
      = others.foldl step (items.foldl step state) :=
        (settles.foldl_foldl_absorbs (fun item => (same item).2) state).symm
    _ = items.foldl step (others.foldl step state) := settles.foldl_swap items others state
    _ = others.foldl step state :=
        settles.foldl_foldl_absorbs (fun item => (same item).1) state

end Settles

/-! ### Sets and maps -/

theorem TextSet.insert_all_comm (set : TextSet) (first second : List String) :
    (set.insertAll first).insertAll second = (set.insertAll second).insertAll first := by
  ext text
  simp [or_left_comm]

theorem TextSet.insert_all_twice (set : TextSet) (texts : List String) :
    (set.insertAll texts).insertAll texts = set.insertAll texts := by
  apply insert_all_of_mem
  intro text member
  exact mem_insert_all.2 (Or.inl member)

theorem TextSet.of_list_congr {first second : List String}
    (same : ∀ text, text ∈ first ↔ text ∈ second) : ofList first = ofList second := by
  ext text
  simp [same]

namespace TextMap

variable {Value : Type u}

theorem alter_alter (map : TextMap Value) (key : String) (first second : Option Value → Value) :
    (map.alter key first).alter key second =
      map.alter key fun held => second (some (first held)) := by
  ext other : 1
  simp only [get_alter, if_true]
  split <;> rfl

theorem alter_comm (map : TextMap Value) {key other : String} (apart : key ≠ other)
    (first second : Option Value → Value) : (map.alter key first).alter other second =
      (map.alter other second).alter key first := by
  ext name : 1
  simp only [get_alter, if_neg apart, if_neg apart.symm]
  by_cases atKey : name = key
  · subst atKey
    simp [apart]
  · simp [atKey]

/-- Changes of single entries settle where those of one entry do. -/
theorem settles_alter {Item : Type v} (key : Item → String)
    (change : Item → Option Value → Value)
    (commutes : ∀ first second held, key first = key second →
      change second (some (change first held)) = change first (some (change second held)))
    (repeats : ∀ item held, change item (some (change item held)) = change item held) :
    Settles fun (map : TextMap Value) item => map.alter (key item) (change item) := by
  constructor
  · intro map first second
    by_cases same : key first = key second
    · rw [same, alter_alter, alter_alter]
      congr 1
      funext held
      exact commutes first second held same
    · exact alter_comm map same (change first) (change second)
  · intro map item
    rw [alter_alter]
    congr 1
    funext held
    exact repeats item held

/-- A map of sets is determined by its keys and by which texts stand under each. -/
theorem ext_relates {first second : TextMap TextSet}
    (keys : ∀ key, first.contains key = true ↔ second.contains key = true)
    (texts : ∀ key text, first.Relates key text ↔ second.Relates key text) : first = second := by
  ext key : 1
  have sameKey := keys key
  have sameTexts := texts key
  simp only [relates_iff, contains] at sameKey sameTexts
  cases left : first.get? key with
  | none =>
      rw [left, Option.isSome_none] at sameKey
      cases right : second.get? key with
      | none => rfl
      | some held =>
          rw [right] at sameKey
          exact absurd (sameKey.2 rfl) Bool.false_ne_true
  | some set =>
      rw [left] at sameKey sameTexts
      cases right : second.get? key with
      | none =>
          rw [right] at sameKey
          exact absurd (sameKey.1 rfl) Bool.false_ne_true
      | some held =>
          rw [right] at sameTexts
          congr 1
          ext text
          exact sameTexts text

end TextMap

end BomEvidence
