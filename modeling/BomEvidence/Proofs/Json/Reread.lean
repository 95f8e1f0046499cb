import BomEvidence.Proofs.Json.Fitting

/-!
Values with their numbers read anew. An integer stays what it is, and a finite number stays a
number; nothing else of a value changes. This is the value that is read from what is written.
-/

namespace BomEvidence.Json

def Number.reread : Number → Number
  | .integer value => .integer value
  | .float value => (Tree.floatNumeral value).value?.getD (.float value)

theorem Number.leaf_of_finite {number : Number} (finite : number.isFinite = true) :
    number.leaf = .number number.reread := by
  cases number with
  | integer value =>
      simp only [isFinite, Bool.and_eq_true, decide_eq_true_eq] at finite
      rw [leaf, numeral, Tree.Numeral.integer_value finite.1 finite.2, reread]
  | float value =>
      simp only [isFinite, decide_eq_true_eq] at finite
      obtain ⟨again, read⟩ := Tree.float_numeral_value finite
      rw [leaf, numeral, reread, read, Option.getD_some]

mutual

/-- A value whose floating-point numbers are read anew. -/
def reread : Json → Json
  | .null => .null
  | .bool value => .bool value
  | .number value => .number value.reread
  | .text value => .text value
  | .array items => .array (itemsReread items)
  | .object members => .object (membersReread members)

def itemsReread : List Json → List Json
  | [] => []
  | item :: rest => reread item :: itemsReread rest

def membersReread : List (String × Json) → List (String × Json)
  | [] => []
  | (key, item) :: rest => (key, reread item) :: membersReread rest

end

theorem items_reread_eq (items : List Json) : itemsReread items = items.map reread := by
  induction items with
  | nil => rfl
  | cons item rest ih => rw [itemsReread, ih, List.map_cons]

theorem members_reread_eq (members : List (String × Json)) :
    membersReread members = members.map fun member => (member.1, member.2.reread) := by
  induction members with
  | nil => rfl
  | cons member rest ih => rw [membersReread, ih, List.map_cons]

mutual

/-- A value that fits is read as the value with its numbers read anew. -/
theorem tree_on_of_fits : (value : Json) → {depth : Nat} → value.fits depth = true →
    value.treeOn depth = value.reread.tree
  | .null, _, _ | .bool _, _, _ | .text _, _, _ => by rw [treeOn, reread, tree]
  | .number value, _, fit => by
      rw [treeOn, reread, tree, Number.leaf_of_finite fit]
  | .array items, depth, fit => by
      obtain ⟨inside, each⟩ := array_fits_iff.1 fit
      rw [treeOn, Tree.on_level_of_le inside, reread, tree, item_trees_on_of_fits items each]
  | .object members, depth, fit => by
      obtain ⟨inside, each⟩ := object_fits_iff.1 fit
      rw [treeOn, Tree.on_level_of_le inside, reread, tree, member_trees_on_of_fits members each]

theorem item_trees_on_of_fits : (items : List Json) → {depth : Nat} →
    (∀ item ∈ items, item.fits depth = true) →
    itemTreesOn depth items = itemTrees (itemsReread items)
  | [], _, _ => rfl
  | item :: rest, depth, fit => by
      obtain ⟨itemFits, restFits⟩ := List.forall_mem_cons.1 fit
      rw [itemTreesOn, itemsReread, itemTrees, tree_on_of_fits item itemFits,
        item_trees_on_of_fits rest restFits]

theorem member_trees_on_of_fits : (members : List (String × Json)) → {depth : Nat} →
    (∀ member ∈ members, member.2.fits depth = true) →
    memberTreesOn depth members = memberTrees (membersReread members)
  | [], _, _ => rfl
  | (key, item) :: rest, depth, fit => by
      obtain ⟨itemFits, restFits⟩ := List.forall_mem_cons.1 fit
      rw [memberTreesOn, membersReread, memberTrees, tree_on_of_fits item itemFits,
        member_trees_on_of_fits rest restFits]

end

/-! ### What stays as it is -/

theorem reread_null_iff {value : Json} : value.reread = .null ↔ value = .null := by
  cases value <;> simp [reread]

mutual

theorem reread_canonical : (value : Json) → value.Canonical → value.reread.Canonical
  | .null, canonical | .bool _, canonical | .text _, canonical => by
      rwa [reread]
  | .number _, _ => by
      rw [reread]
      rfl
  | .array items, canonical => by
      rw [reread, canonical_array_iff]
      exact items_reread_canonical items (canonical_array_iff.1 canonical)
  | .object members, canonical => by
      obtain ⟨ascending, each⟩ := canonical_object_iff.1 canonical
      rw [reread, canonical_object_iff]
      refine ⟨?_, members_reread_canonical members each⟩
      rw [members_reread_eq, List.map_map]
      exact ascending

theorem items_reread_canonical : (items : List Json) → (∀ item ∈ items, item.Canonical) →
    ∀ item ∈ itemsReread items, item.Canonical
  | [], _ => fun _ member => absurd member List.not_mem_nil
  | item :: rest, canonical => by
      obtain ⟨first, others⟩ := List.forall_mem_cons.1 canonical
      exact List.forall_mem_cons.2
        ⟨reread_canonical item first, items_reread_canonical rest others⟩

theorem members_reread_canonical : (members : List (String × Json)) →
    (∀ member ∈ members, member.2.Canonical) → ∀ member ∈ membersReread members, member.2.Canonical
  | [], _ => fun _ member => absurd member List.not_mem_nil
  | (_, item) :: rest, canonical => by
      obtain ⟨first, others⟩ := List.forall_mem_cons.1 canonical
      exact List.forall_mem_cons.2
        ⟨reread_canonical item first, members_reread_canonical rest others⟩

end

theorem Others.reread {names : List String} {extra : TextMap Json} (others : Others names extra) :
    Others names (extra.mapValues Json.reread) := by
  constructor
  · intro name member
    rw [TextMap.get_map_values, others.apart name member]
    rfl
  · intro key value held
    rw [TextMap.get_map_values] at held
    obtain ⟨before, isBefore, rfl⟩ := Option.map_eq_some_iff.1 held
    exact reread_canonical before (others.canonical key before isBefore)

theorem insert_map_values (members : TextMap Json) (key : String) (value : Json) :
    (members.insert key value).mapValues reread =
      (members.mapValues reread).insert key value.reread := by
  ext other : 1
  rw [TextMap.get_map_values, TextMap.get_insert, TextMap.get_insert, TextMap.get_map_values]
  split <;> rfl

theorem reread_of_fields (fields : List (String × Option Json)) (extra : TextMap Json) :
    (ofFields fields extra).reread =
      ofFields (fields.map fun field => (field.1, field.2.map reread)) (extra.mapValues reread) := by
  have members : (membersOf fields extra).mapValues reread =
      membersOf (fields.map fun field => (field.1, field.2.map reread)) (extra.mapValues reread) := by
    induction fields generalizing extra with
    | nil => rfl
    | cons field rest ih =>
        obtain ⟨name, value⟩ := field
        cases value with
        | none => exact ih extra
        | some value =>
            rw [membersOf, ih, insert_map_values]
            rfl
  rw [of_fields_eq, of_fields_eq, ← members, ofMap, reread, members_reread_eq]
  rfl

/-! ### Writers whose values are read anew -/

@[simp] theorem reread_comp_text : reread ∘ text = text := funext fun _ => by simp [reread]

@[simp] theorem reread_comp_bool : reread ∘ bool = bool := funext fun _ => by simp [reread]

@[simp] theorem reread_comp_word : reread ∘ ofWord = ofWord :=
  funext fun _ => by simp [ofWord, ofNat, reread, Number.reread]

@[simp] theorem reread_comp_array : reread ∘ array = array ∘ List.map reread :=
  funext fun items => by simp [reread, items_reread_eq]

@[simp] theorem reread_comp_list {Item : Type} (write : Item → Json) :
    reread ∘ ofList write = ofList (reread ∘ write) :=
  funext fun items => by simp [ofList, reread, items_reread_eq]

@[simp] theorem reread_comp_texts : reread ∘ Bom.textsJson = Bom.textsJson := by
  have texts : Bom.textsJson = ofList text := rfl
  rw [texts, reread_comp_list, reread_comp_text]

theorem of_list_comp {Item Other : Type} (write : Item → Json) (change : Other → Item) :
    ofList (write ∘ change) = ofList write ∘ List.map change :=
  funext fun items => by simp [ofList]

end BomEvidence.Json
