import BomEvidence.Json.Decode
import BomEvidence.Proofs.Sorted.Laws

/-!
Values that are read back as they are written. The members of their objects stand in
ascending order, as they do in every value that was read.
-/

namespace BomEvidence

namespace Json

theorem item_trees_eq (items : List Json) : itemTrees items = items.map tree := by
  induction items with
  | nil => rfl
  | cons item rest ih => rw [itemTrees, ih, List.map_cons]

theorem member_trees_eq (members : List (String × Json)) :
    memberTrees members = members.map fun member => (member.1, member.2.tree) := by
  induction members with
  | nil => rfl
  | cons member rest ih => rw [memberTrees, ih, List.map_cons]

/-- A value that its own tree has. -/
def Canonical (value : Json) : Prop := value.tree.value? = some value

theorem values_item_trees {items : List Json} (canonical : ∀ item ∈ items, item.Canonical) :
    Tree.values? (itemTrees items) = some items := by
  induction items with
  | nil => rfl
  | cons item rest ih =>
      have head : item.tree.value? = some item := canonical item List.mem_cons_self
      rw [itemTrees, Tree.values?, head, ih fun other member =>
        canonical other (List.mem_cons_of_mem _ member)]
      rfl

theorem member_values_member_trees {members : List (String × Json)}
    (canonical : ∀ member ∈ members, member.2.Canonical) :
    Tree.memberValues? (memberTrees members) = some members := by
  induction members with
  | nil => rfl
  | cons member rest ih =>
      have head : member.2.tree.value? = some member.2 := canonical member List.mem_cons_self
      rw [memberTrees, Tree.memberValues?, head, ih fun other among =>
        canonical other (List.mem_cons_of_mem _ among)]
      rfl

theorem canonical_array {items : List Json} (canonical : ∀ item ∈ items, item.Canonical) :
    (array items).Canonical := by
  rw [Canonical, tree, Tree.value?, values_item_trees canonical]
  rfl

theorem canonical_of_map {members : TextMap Json}
    (canonical : ∀ key value, members.get? key = some value → value.Canonical) :
    (ofMap members).Canonical := by
  have each : ∀ member ∈ members.entries, member.2.Canonical := fun member among =>
    canonical member.1 member.2 (TextMap.mem_entries_iff.1 among)
  rw [Canonical, ofMap, tree, Tree.value?, member_values_member_trees each, Option.map_some,
    TextMap.of_list_entries, ofMap]

mutual

theorem canonical_of_value : (source : Tree) → {value : Json} → source.value? = some value →
    value.Canonical
  | .null, _, read | .bool _, _, read | .number _, _, read | .text _, _, read => by
      cases read
      rfl
  | .unreadable, _, read => by cases read
  | .array items, value, read => by
      rw [Tree.value?] at read
      obtain ⟨values, itemsRead, rfl⟩ := Option.map_eq_some_iff.1 read
      exact canonical_array (canonical_of_values items itemsRead)
  | .object members, value, read => by
      rw [Tree.value?] at read
      obtain ⟨values, membersRead, rfl⟩ := Option.map_eq_some_iff.1 read
      apply canonical_of_map
      intro key value held
      exact canonical_of_member_values members membersRead (key, value)
        (TextMap.mem_of_get_of_list held)

theorem canonical_of_values : (items : List Tree) → {values : List Json} →
    Tree.values? items = some values → ∀ value ∈ values, value.Canonical
  | [], _, read, value, member => by
      cases read
      cases member
  | item :: rest, values, read, value, member => by
      simp only [Tree.values?, Option.bind_eq_bind, Option.bind_eq_some_iff,
        Option.some.injEq] at read
      obtain ⟨first, itemRead, others, restRead, rfl⟩ := read
      rcases List.mem_cons.1 member with rfl | member
      · exact canonical_of_value item itemRead
      · exact canonical_of_values rest restRead value member

theorem canonical_of_member_values : (members : List (String × Tree)) →
    {values : List (String × Json)} → Tree.memberValues? members = some values →
    ∀ value ∈ values, value.2.Canonical
  | [], _, read, value, member => by
      cases read
      cases member
  | (key, item) :: rest, values, read, value, member => by
      simp only [Tree.memberValues?, Option.bind_eq_bind, Option.bind_eq_some_iff,
        Option.some.injEq] at read
      obtain ⟨first, itemRead, others, restRead, rfl⟩ := read
      rcases List.mem_cons.1 member with rfl | member
      · exact canonical_of_value item itemRead
      · exact canonical_of_member_values rest restRead value member

end

theorem canonical_object {members : List (String × Json)}
    (ascending : (members.map Prod.fst).Pairwise (· < ·))
    (canonical : ∀ member ∈ members, member.2.Canonical) : (object members).Canonical := by
  have listed : (ofMap ⟨members, List.pairwise_map.1 ascending⟩).Canonical := by
    apply canonical_of_map
    intro key value held
    exact canonical (key, value) (TextMap.mem_entries_iff.2 held)
  exact listed

theorem canonical_array_iff {items : List Json} :
    (array items).Canonical ↔ ∀ item ∈ items, item.Canonical := by
  constructor
  · intro canonical
    rw [Canonical, tree, Tree.value?] at canonical
    obtain ⟨values, read, same⟩ := Option.map_eq_some_iff.1 canonical
    cases same
    exact canonical_of_values _ read
  · exact canonical_array

/-- The members of an object that is read back stand in ascending order. -/
theorem canonical_object_iff {members : List (String × Json)} : (object members).Canonical ↔
    (members.map Prod.fst).Pairwise (· < ·) ∧ ∀ member ∈ members, member.2.Canonical := by
  constructor
  · intro canonical
    rw [Canonical, tree, Tree.value?] at canonical
    obtain ⟨values, read, same⟩ := Option.map_eq_some_iff.1 canonical
    have entries : (TextMap.ofList values).entries = members := object.inj same
    rw [← entries]
    refine ⟨(TextMap.ofList values).keys_ascending, ?_⟩
    intro member among
    have held := TextMap.mem_entries_iff.1 among
    exact canonical_of_member_values _ read member (TextMap.mem_of_get_of_list held)
  · intro ⟨ascending, canonical⟩
    exact canonical_object ascending canonical

theorem canonical_member {value part : Json} {key : String} (canonical : value.Canonical)
    (held : value.member? key = some part) : part.Canonical := by
  cases value with
  | object members =>
      exact (canonical_object_iff.1 canonical).2 (key, part) (TextMap.mem_of_lookup held)
  | _ => cases held

theorem canonical_item {value part : Json} {position : Nat} (canonical : value.Canonical)
    (held : value.item? position = some part) : part.Canonical := by
  cases value with
  | array items => exact canonical_array_iff.1 canonical part (List.mem_of_getElem? held)
  | _ => cases held

theorem keys_of_member_values {members : List (String × Tree)} {values : List (String × Json)}
    (read : Tree.memberValues? members = some values) :
    values.map Prod.fst = members.map Prod.fst := by
  induction members generalizing values with
  | nil =>
      cases read
      rfl
  | cons member rest ih =>
      simp only [Tree.memberValues?, Option.bind_eq_bind, Option.bind_eq_some_iff,
        Option.some.injEq] at read
      obtain ⟨first, _, others, restRead, rfl⟩ := read
      rw [List.map_cons, List.map_cons, ih restRead]

end Json

end BomEvidence
