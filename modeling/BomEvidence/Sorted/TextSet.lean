import BomEvidence.Sorted.TextMap

/-!
Sets of texts, kept as a strictly ascending list. A set is determined by its members.
-/

namespace BomEvidence

universe u

/-- Texts in strictly ascending order. -/
structure TextSet where
  toList : List String
  ascending : toList.Pairwise (· < ·)
  deriving DecidableEq, Repr

namespace TextSet

def empty : TextSet := ⟨[], .nil⟩

instance : EmptyCollection TextSet := ⟨empty⟩
instance : Inhabited TextSet := ⟨empty⟩
instance : Membership String TextSet := ⟨fun set text => text ∈ set.toList⟩

theorem mem_def {set : TextSet} {text : String} : text ∈ set ↔ text ∈ set.toList := Iff.rfl

instance (text : String) (set : TextSet) : Decidable (text ∈ set) :=
  inferInstanceAs (Decidable (text ∈ set.toList))

def insertOrdered (text : String) : List String → List String
  | [] => [text]
  | head :: rest =>
      if text < head then text :: head :: rest
      else if text = head then head :: rest
      else head :: insertOrdered text rest

@[simp] theorem mem_insert_ordered {text other : String} {texts : List String} :
    other ∈ insertOrdered text texts ↔ other = text ∨ other ∈ texts := by
  induction texts with
  | nil => simp [insertOrdered]
  | cons head rest ih =>
      simp only [insertOrdered]
      split
      · simp
      · split
        · rename_i same; subst same; simp
        · simp [ih, or_left_comm]

theorem insert_ordered_ascending (text : String) {texts : List String}
    (ascending : texts.Pairwise (· < ·)) : (insertOrdered text texts).Pairwise (· < ·) := by
  induction texts with
  | nil => simp [insertOrdered]
  | cons head rest ih =>
      obtain ⟨above, ascendingRest⟩ := List.pairwise_cons.1 ascending
      simp only [insertOrdered]
      split
      · rename_i less
        refine List.pairwise_cons.2 ⟨?_, ascending⟩
        intro other member
        rcases List.mem_cons.1 member with rfl | member
        · exact less
        · exact String.lt_trans less (above _ member)
      · rename_i notLess
        split
        · exact ascending
        · rename_i different
          refine List.pairwise_cons.2 ⟨?_, ih ascendingRest⟩
          intro other member
          rcases mem_insert_ordered.1 member with rfl | member
          · exact text_lt_of_not_lt_of_ne notLess different
          · exact above _ member

def insert (set : TextSet) (text : String) : TextSet :=
  ⟨insertOrdered text set.toList, insert_ordered_ascending text set.ascending⟩

def insertAll (set : TextSet) (texts : List String) : TextSet := texts.foldl insert set

def ofList (texts : List String) : TextSet := insertAll empty texts

def union (first second : TextSet) : TextSet := first.insertAll second.toList

instance : Union TextSet := ⟨union⟩

def isEmpty (set : TextSet) : Bool := set.toList.isEmpty

def size (set : TextSet) : Nat := set.toList.length

@[simp] theorem not_mem_empty (text : String) : ¬text ∈ empty := List.not_mem_nil

@[simp] theorem mem_insert {set : TextSet} {text other : String} :
    other ∈ set.insert text ↔ other = text ∨ other ∈ set := mem_insert_ordered

@[simp] theorem mem_insert_all {set : TextSet} {texts : List String} {other : String} :
    other ∈ set.insertAll texts ↔ other ∈ texts ∨ other ∈ set := by
  induction texts generalizing set with
  | nil => simp [insertAll]
  | cons head rest ih =>
      have step : set.insertAll (head :: rest) = (set.insert head).insertAll rest := rfl
      rw [step, ih]
      simp [or_assoc, or_left_comm]

@[simp] theorem mem_of_list {texts : List String} {text : String} :
    text ∈ ofList texts ↔ text ∈ texts := by simp [ofList]

@[simp] theorem mem_union {first second : TextSet} {text : String} :
    text ∈ first ∪ second ↔ text ∈ first ∨ text ∈ second := by
  change text ∈ first.insertAll second.toList ↔ _
  rw [mem_insert_all, or_comm]
  rfl

@[ext] theorem ext_mem {first second : TextSet}
    (same : ∀ text, text ∈ first ↔ text ∈ second) : first = second := by
  obtain ⟨left, leftAscending⟩ := first
  obtain ⟨right, rightAscending⟩ := second
  simp only [mem_def] at same
  have nodup : ∀ {texts : List String}, texts.Pairwise (· < ·) → texts.Nodup :=
    fun ascending => by
      refine ascending.imp ?_
      rintro a b less rfl
      exact String.lt_irrefl a less
  have permuted : left.Perm right := by
    refine List.perm_iff_count.2 fun text => ?_
    rw [(nodup leftAscending).count, (nodup rightAscending).count]
    simp [same text]
  have equal := permuted.eq_of_pairwise
    (fun _ _ _ _ less greater => absurd greater (String.lt_asymm less))
    leftAscending rightAscending
  subst equal
  rfl

end TextSet

def TextMap.keySet {Value : Type u} (map : TextMap Value) : TextSet := ⟨map.keys, map.keys_ascending⟩

end BomEvidence
