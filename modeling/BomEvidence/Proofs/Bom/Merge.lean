import BomEvidence.Bom.Attach
import BomEvidence.Proofs.Sorted.Laws

/-!
Merging evidence, texts and services. New places take the place of old ones in ascending
order and without the empty text, and whatever was merged once is not changed when it is
merged again.
-/

namespace BomEvidence

namespace EvidenceUpdate

theorem mem_places {update : EvidenceUpdate} {place : String} :
    place ∈ update.places ↔ place ∈ update.locations ∧ place ≠ "" := by
  unfold places
  rw [List.mem_filter, bne_iff_ne]
  rfl

theorem places_ascending (update : EvidenceUpdate) : update.places.Pairwise (· < ·) :=
  update.locations.ascending.filter _

theorem eq_places_of_members {update : EvidenceUpdate} {texts : List String}
    (ascending : texts.Pairwise (· < ·)) (members : ∀ text, text ∈ texts ↔ text ∈ update.places) :
    texts = update.places := by
  let held : TextSet := ⟨texts, ascending⟩
  let places : TextSet := ⟨update.places, update.places_ascending⟩
  have same : held = places := TextSet.ext_mem members
  exact congrArg TextSet.toList same

theorem merge_into_occurrences (update : EvidenceUpdate) (existing : Option Bom.Evidence) :
    (update.mergeInto existing).bind Bom.Evidence.occurrences =
      if update.places.isEmpty then existing.bind Bom.Evidence.occurrences
      else some (update.places.map fun place => ⟨place, ∅⟩) := by
  unfold mergeInto
  by_cases nothing : update.isEmpty = true
  · rw [if_pos nothing]
    have noPlaces : update.places.isEmpty = true := (Bool.and_eq_true_iff.1 nothing).1
    rw [if_pos noPlaces]
  · rw [if_neg nothing]
    dsimp only
    rw [Option.bind_some]
    dsimp only
    by_cases noPlaces : update.places.isEmpty = true
    · rw [if_pos noPlaces, if_pos noPlaces]
      cases existing <;> rfl
    · rw [if_neg noPlaces, if_neg noPlaces]

theorem merge_into_merge_into (update : EvidenceUpdate) (existing : Option Bom.Evidence) :
    update.mergeInto (update.mergeInto existing) = update.mergeInto existing := by
  unfold mergeInto
  by_cases nothing : update.isEmpty = true
  · rw [if_pos nothing, if_pos nothing]
  · rw [if_neg nothing, if_neg nothing]
    dsimp only
    rw [Option.getD_some]
    by_cases noPlaces : update.places.isEmpty = true
    · simp only [noPlaces, if_true]
      cases update.frames <;> rfl
    · simp only [noPlaces]
      cases update.frames <;> rfl

end EvidenceUpdate

theorem merged_texts_merged_texts (existing : Option (List String)) (added : List String) :
    mergedTexts (some (mergedTexts existing added)) added = mergedTexts existing added := by
  unfold mergedTexts
  rw [Option.getD_some, TextSet.of_list_to_list, TextSet.insert_all_of_mem]
  intro text member
  exact TextSet.mem_insert_all.2 (Or.inl member)

theorem mem_merged_texts {existing : Option (List String)} {added : List String} {text : String} :
    text ∈ mergedTexts existing added ↔ text ∈ existing.getD [] ∨ text ∈ added := by
  unfold mergedTexts
  rw [TextSet.mem_to_list, TextSet.mem_insert_all, TextSet.mem_of_list, or_comm]

theorem merged_texts_ascending (existing : Option (List String)) (added : List String) :
    (mergedTexts existing added).Pairwise (· < ·) :=
  ((TextSet.ofList (existing.getD [])).insertAll added).ascending

namespace Bom.ServiceEntry

theorem merge_endpoints (entry : ServiceEntry) (service : Service) :
    (entry.merge service).endpoints.getD [] =
      mergedTexts entry.endpoints service.endpoints.toList := by
  unfold merge
  dsimp only
  split
  · rename_i nothing
    rw [List.isEmpty_iff.1 nothing]
    rfl
  · rfl

theorem merge_merge (entry : ServiceEntry) (service : Service) :
    (entry.merge service).merge service = entry.merge service := by
  have again : mergedTexts (entry.merge service).endpoints service.endpoints.toList =
      mergedTexts entry.endpoints service.endpoints.toList := by
    rw [← merged_texts_merged_texts entry.endpoints, ← merge_endpoints entry]
    rfl
  have authenticated : (if service.authenticated = some true then some true
      else (entry.merge service).authenticated.or service.authenticated) =
        (entry.merge service).authenticated := by
    unfold merge
    dsimp only
    split
    · rfl
    · cases entry.authenticated <;> cases service.authenticated <;> rfl
  have trustBoundary : (if service.trustBoundary = some true then some true
      else (entry.merge service).trustBoundary) = (entry.merge service).trustBoundary := by
    unfold merge
    dsimp only
    split <;> rfl
  rw [merge, again, authenticated, trustBoundary]
  rfl

theorem merge_named_same {name : String} {entry : ServiceEntry} (same : entry.name = name)
    (service : Service) (rest : List ServiceEntry) :
    mergeNamed name service (entry :: rest) = entry.merge service :: rest := if_pos same

theorem merge_named_apart {name : String} {entry : ServiceEntry} (apart : entry.name ≠ name)
    (service : Service) (rest : List ServiceEntry) :
    mergeNamed name service (entry :: rest) = entry :: mergeNamed name service rest := if_neg apart

theorem merge_named_merge_named (name : String) (service : Service)
    (entries : List ServiceEntry) : mergeNamed name service (mergeNamed name service entries) =
      mergeNamed name service entries := by
  induction entries with
  | nil =>
      let created := ({ (default : ServiceEntry) with name }).merge service
      have named : created.name = name := rfl
      calc mergeNamed name service [created]
          = [created.merge service] := merge_named_same named service []
        _ = [created] := by rw [merge_merge]
  | cons entry rest ih =>
      by_cases same : entry.name = name
      · have kept : (entry.merge service).name = name := same
        rw [merge_named_same same, merge_named_same kept, merge_merge]
      · rw [merge_named_apart same, merge_named_apart same, ih]

theorem merge_named_other {name other : String} {service added : Service}
    (different : other ≠ name) {entries : List ServiceEntry}
    (merged : mergeNamed name service entries = entries) :
    mergeNamed name service (mergeNamed other added entries) = mergeNamed other added entries := by
  induction entries with
  | nil => cases merged
  | cons entry rest ih =>
      by_cases same : entry.name = name
      · rw [merge_named_same same] at merged
        have notOther : entry.name ≠ other := fun equal => different (equal.symm.trans same)
        rw [merge_named_apart notOther, merge_named_same same, (List.cons.inj merged).1]
      · rw [merge_named_apart same] at merged
        have restMerged := (List.cons.inj merged).2
        by_cases sameOther : entry.name = other
        · have kept : (entry.merge added).name ≠ name := same
          rw [merge_named_same sameOther, merge_named_apart kept, restMerged]
        · rw [merge_named_apart sameOther, merge_named_apart same, ih restMerged]

def mergeEach : List (String × Service) → List ServiceEntry → List ServiceEntry
  | [], entries => entries
  | (name, service) :: rest, entries => mergeEach rest (mergeNamed name service entries)

theorem merge_all_eq_merge_each (services : ServiceMap) (entries : List ServiceEntry) :
    mergeAll services entries = mergeEach services.entries entries := by
  unfold mergeAll
  generalize services.entries = changes
  induction changes generalizing entries with
  | nil => rfl
  | cons head rest ih => exact ih (mergeNamed head.1 head.2 entries)

theorem merge_each_keeps {services : List (String × Service)} {name : String} {service : Service}
    (different : ∀ other ∈ services, other.1 ≠ name) {entries : List ServiceEntry}
    (merged : mergeNamed name service entries = entries) :
    mergeNamed name service (mergeEach services entries) = mergeEach services entries := by
  induction services generalizing entries with
  | nil => exact merged
  | cons head rest ih =>
      exact ih (fun other member => different other (List.mem_cons_of_mem _ member))
        (merge_named_other (different head List.mem_cons_self) merged)

theorem merge_each_merged {services : List (String × Service)}
    (ascending : services.Pairwise fun first second => first.1 < second.1)
    (entries : List ServiceEntry) : ∀ added ∈ services,
      mergeNamed added.1 added.2 (mergeEach services entries) = mergeEach services entries := by
  induction services generalizing entries with
  | nil => exact fun _ member => absurd member List.not_mem_nil
  | cons head rest ih =>
      obtain ⟨above, ascendingRest⟩ := List.pairwise_cons.1 ascending
      intro added member
      rcases List.mem_cons.1 member with rfl | member
      · have different : ∀ other ∈ rest, other.1 ≠ added.1 := by
          intro other among same
          exact String.lt_irrefl added.1 (same ▸ above other among)
        exact merge_each_keeps different (merge_named_merge_named added.1 added.2 entries)
      · exact ih ascendingRest _ added member

theorem merge_each_of_merged {services : List (String × Service)} {entries : List ServiceEntry}
    (merged : ∀ added ∈ services, mergeNamed added.1 added.2 entries = entries) :
    mergeEach services entries = entries := by
  induction services with
  | nil => rfl
  | cons head rest ih =>
      rw [mergeEach, merged head List.mem_cons_self]
      exact ih fun added member => merged added (List.mem_cons_of_mem _ member)

theorem merge_all_merge_all (services : ServiceMap) (entries : List ServiceEntry) :
    mergeAll services (mergeAll services entries) = mergeAll services entries := by
  rw [merge_all_eq_merge_each, merge_all_eq_merge_each]
  exact merge_each_of_merged (merge_each_merged services.ascending entries)

end Bom.ServiceEntry

end BomEvidence
