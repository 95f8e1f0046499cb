/-!
Maps from texts, kept as a list of entries with strictly ascending keys. The
order is that of the code points, which is also the order of the UTF-8 bytes.
A map is determined by what it holds under each key.
-/

namespace BomEvidence

universe u v

theorem text_lt_of_not_lt_of_ne {a b : String} (notLess : ¬a < b) (different : a ≠ b) : b < a :=
  String.not_le.1 fun h => different (String.le_antisymm h (String.not_lt.1 notLess))

/-- Entries with strictly ascending keys. -/
structure TextMap (Value : Type u) where
  entries : List (String × Value)
  ascending : entries.Pairwise (fun first second => first.1 < second.1)
  deriving DecidableEq, Repr

namespace TextMap

variable {Value : Type u} {Other : Type v}

def empty : TextMap Value := ⟨[], .nil⟩

instance : EmptyCollection (TextMap Value) := ⟨empty⟩
instance : Inhabited (TextMap Value) := ⟨empty⟩

/-- Puts a value made from the one under the key, if any, under that key. -/
def alterEntries (key : String) (change : Option Value → Value) :
    List (String × Value) → List (String × Value)
  | [] => [(key, change none)]
  | (k, value) :: rest =>
      if key < k then (key, change none) :: (k, value) :: rest
      else if key = k then (key, change (some value)) :: rest
      else (k, value) :: alterEntries key change rest

theorem key_of_mem_alter {key : String} {change : Option Value → Value}
    {entries : List (String × Value)} {entry : String × Value}
    (member : entry ∈ alterEntries key change entries) :
    entry.1 = key ∨ entry ∈ entries := by
  induction entries with
  | nil => simp_all [alterEntries]
  | cons head rest ih =>
      simp only [alterEntries] at member
      split at member
      · rcases List.mem_cons.1 member with rfl | member
        · exact Or.inl rfl
        · exact Or.inr member
      · split at member
        · rcases List.mem_cons.1 member with rfl | member
          · exact Or.inl rfl
          · exact Or.inr (List.mem_cons_of_mem _ member)
        · rcases List.mem_cons.1 member with rfl | member
          · exact Or.inr List.mem_cons_self
          · exact (ih member).imp_right (List.mem_cons_of_mem _)

theorem alter_entries_ascending (key : String) (change : Option Value → Value)
    {entries : List (String × Value)}
    (ascending : entries.Pairwise (fun first second => first.1 < second.1)) :
    (alterEntries key change entries).Pairwise (fun first second => first.1 < second.1) := by
  induction entries with
  | nil => simp [alterEntries]
  | cons head rest ih =>
      obtain ⟨above, ascendingRest⟩ := List.pairwise_cons.1 ascending
      simp only [alterEntries]
      split
      · rename_i less
        refine List.pairwise_cons.2 ⟨?_, ascending⟩
        intro entry member
        rcases List.mem_cons.1 member with rfl | member
        · exact less
        · exact String.lt_trans less (above _ member)
      · rename_i notLess
        split
        · rename_i same
          subst same
          exact List.pairwise_cons.2 ⟨above, ascendingRest⟩
        · rename_i different
          refine List.pairwise_cons.2 ⟨?_, ih ascendingRest⟩
          intro entry member
          rcases key_of_mem_alter member with same | member
          · exact same ▸ text_lt_of_not_lt_of_ne notLess different
          · exact above _ member

def alter (map : TextMap Value) (key : String) (change : Option Value → Value) : TextMap Value :=
  ⟨alterEntries key change map.entries, alter_entries_ascending key change map.ascending⟩

def insert (map : TextMap Value) (key : String) (value : Value) : TextMap Value :=
  map.alter key fun _ => value

def insertNew (map : TextMap Value) (key : String) (value : Value) : TextMap Value :=
  map.alter key fun held => held.getD value

def get? (map : TextMap Value) (key : String) : Option Value :=
  map.entries.lookup key

def contains (map : TextMap Value) (key : String) : Bool := (map.get? key).isSome

def keys (map : TextMap Value) : List String := map.entries.map Prod.fst

def values (map : TextMap Value) : List Value := map.entries.map Prod.snd

def size (map : TextMap Value) : Nat := map.entries.length

def isEmpty (map : TextMap Value) : Bool := map.entries.isEmpty

theorem keys_ascending (map : TextMap Value) : map.keys.Pairwise (· < ·) :=
  List.pairwise_map.2 map.ascending

def filter (map : TextMap Value) (keep : String → Value → Bool) : TextMap Value :=
  ⟨map.entries.filter fun entry => keep entry.1 entry.2, map.ascending.filter _⟩

def erase (map : TextMap Value) (key : String) : TextMap Value :=
  map.filter fun k _ => k ≠ key

def mapValues (map : TextMap Value) (change : Value → Other) : TextMap Other :=
  ⟨map.entries.map fun entry => (entry.1, change entry.2), List.pairwise_map.2 map.ascending⟩

/-- The entries put in one after the other, so that the last one of a key stays. -/
def ofList (entries : List (String × Value)) : TextMap Value :=
  entries.foldl (fun map entry => map.insert entry.1 entry.2) empty

theorem lookup_entry_cons (key : String) (head : String × Value) (rest : List (String × Value)) :
    (head :: rest).lookup key = if key = head.1 then some head.2 else rest.lookup key := by
  obtain ⟨k, value⟩ := head
  by_cases same : key = k
  · simp [same]
  · have unequal : (key == k) = false := by simpa using same
    simp [List.lookup_cons, unequal, same]

theorem lookup_below {key : String} {entries : List (String × Value)}
    (above : ∀ entry ∈ entries, key < entry.1) : entries.lookup key = none := by
  induction entries with
  | nil => rfl
  | cons head rest ih =>
      have different : key ≠ head.1 := fun same =>
        String.lt_irrefl _ (same ▸ above head List.mem_cons_self)
      rw [lookup_entry_cons, if_neg different]
      exact ih fun entry member => above entry (List.mem_cons_of_mem _ member)

theorem lookup_alter_entries (key other : String) (change : Option Value → Value)
    {entries : List (String × Value)}
    (ascending : entries.Pairwise (fun first second => first.1 < second.1)) :
    (alterEntries key change entries).lookup other =
      if other = key then some (change (entries.lookup key)) else entries.lookup other := by
  induction entries with
  | nil => simp [alterEntries, lookup_entry_cons]
  | cons head rest ih =>
      obtain ⟨above, ascendingRest⟩ := List.pairwise_cons.1 ascending
      have ih := ih ascendingRest
      simp only [alterEntries]
      split
      · rename_i less
        have missing : (head :: rest).lookup key = none := by
          apply lookup_below
          intro entry member
          rcases List.mem_cons.1 member with rfl | member
          · exact less
          · exact String.lt_trans less (above _ member)
        rw [lookup_entry_cons, missing]
      · split
        · rename_i same
          simp only [lookup_entry_cons, ← same, if_true]
          split <;> rfl
        · rename_i different
          simp only [lookup_entry_cons, ih, different, if_false]
          by_cases sameHead : other = head.1
          · have notKey : other ≠ key := fun h => different (h ▸ sameHead)
            simp [sameHead, Ne.symm different]
          · simp [sameHead]

theorem get_alter (map : TextMap Value) (key other : String) (change : Option Value → Value) :
    (map.alter key change).get? other =
      if other = key then some (change (map.get? key)) else map.get? other :=
  lookup_alter_entries key other change map.ascending

theorem get_insert (map : TextMap Value) (key other : String) (value : Value) :
    (map.insert key value).get? other = if other = key then some value else map.get? other :=
  get_alter map key other _

@[simp] theorem get_empty (key : String) : (empty : TextMap Value).get? key = none := rfl

@[ext] theorem ext_get {first second : TextMap Value}
    (same : ∀ key, first.get? key = second.get? key) : first = second := by
  obtain ⟨left, leftAscending⟩ := first
  obtain ⟨right, rightAscending⟩ := second
  simp only [get?, mk.injEq] at same ⊢
  induction left generalizing right with
  | nil =>
      cases right with
      | nil => rfl
      | cons head rest => have := same head.1; simp [lookup_entry_cons] at this
  | cons head rest ih =>
      cases right with
      | nil => have := same head.1; simp [lookup_entry_cons] at this
      | cons other others =>
          obtain ⟨above, restAscending⟩ := List.pairwise_cons.1 leftAscending
          obtain ⟨otherAbove, othersAscending⟩ := List.pairwise_cons.1 rightAscending
          have notBelow : ∀ {low high : String × Value} {lows highs : List (String × Value)},
              (∀ key, (low :: lows).lookup key = (high :: highs).lookup key) →
              (∀ entry ∈ highs, high.1 < entry.1) → ¬low.1 < high.1 := by
            intro low high lows highs equal higher less
            have missing : (high :: highs).lookup low.1 = none := by
              apply lookup_below
              intro entry member
              rcases List.mem_cons.1 member with rfl | member
              · exact less
              · exact String.lt_trans less (higher _ member)
            have held := equal low.1
            rw [missing] at held
            simp [lookup_entry_cons] at held
          have sameKey : head.1 = other.1 := String.le_antisymm
            (String.not_lt.1 (notBelow (fun key => (same key).symm) above))
            (String.not_lt.1 (notBelow same otherAbove))
          have sameValue : head.2 = other.2 := by
            have held := same head.1
            simpa [lookup_entry_cons, sameKey] using held
          have sameHead : head = other := Prod.ext sameKey sameValue
          subst sameHead
          congr 1
          refine ih restAscending others othersAscending fun key => ?_
          by_cases atHead : key = head.1
          · subst atHead
            rw [lookup_below above, lookup_below otherAbove]
          · simpa [lookup_entry_cons, atHead] using same key

end TextMap

end BomEvidence
