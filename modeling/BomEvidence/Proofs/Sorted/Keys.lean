import BomEvidence.Proofs.Sorted.Laws
import Mathlib.Data.Finset.Card
import Mathlib.Data.List.Dedup

/-!
The keys of maps. A key is one that holds a value, a map has as many entries as it has different
keys, and the keys of a map whose entries are filtered are those that pass.
-/

namespace BomEvidence

namespace TextMap

variable {Value : Type}

theorem mem_keys_iff {map : TextMap Value} {key : String} :
    key ∈ map.keys ↔ map.contains key = true := by
  unfold keys contains
  rw [List.mem_map, Option.isSome_iff_exists]
  simp only [← mem_entries_iff]
  constructor
  · intro member
    obtain ⟨⟨_, value⟩, held, rfl⟩ := member
    exact ⟨value, held⟩
  · intro member
    obtain ⟨value, held⟩ := member
    exact ⟨(key, value), held, rfl⟩

theorem mem_filter_keys {map : TextMap Value} {keep : String → Value → Bool} {key : String} :
    key ∈ (map.filter keep).keys ↔ ∃ value, map.get? key = some value ∧ keep key value = true := by
  rw [mem_keys_iff, contains, Option.isSome_iff_exists]
  simp only [← mem_entries_iff]
  exact exists_congr fun value => List.mem_filter

theorem get_of_ascending {entries : List (String × Value)} {key : String} {value : Value}
    (ascending : (entries.map Prod.fst).Pairwise (· < ·)) (member : (key, value) ∈ entries) :
    (ofList entries).get? key = some value := by
  let listed : TextMap Value := ⟨entries, List.pairwise_map.1 ascending⟩
  have kept : ofList entries = listed := of_list_entries listed
  rw [kept]
  exact mem_entries_iff.1 member

/-- A map has as many entries as there are different names of its keys. -/
theorem size_of_names {map : TextMap Value} {names : List String}
    (named : ∀ key, map.contains key = true ↔ key ∈ names) : map.size = names.toFinset.card := by
  have sameKeys : map.keys.toFinset = names.toFinset := by
    ext key
    rw [List.mem_toFinset, List.mem_toFinset, mem_keys_iff, named]
  calc map.size
      = map.keys.length := (List.length_map Prod.fst).symm
    _ = map.keys.toFinset.card := (List.toFinset_card_of_nodup map.keys_nodup).symm
    _ = names.toFinset.card := by rw [sameKeys]

end TextMap

end BomEvidence
