import BomEvidence.Proofs.Bom.Merge
import BomEvidence.Proofs.Evidence.UsagePlaces

/-!
Components and documents with evidence. A component of a package gets exactly the places
that the maps hold for it, and a document to which the evidence was attached that it would
get does not change when it is attached again, apart from its version and its times.
-/

namespace BomEvidence

theorem EvidenceUpdate.mem_of_maps {maps : EvidenceMaps} {purl place : String} :
    place ∈ (ofMaps maps purl).places ↔ maps.HasPlace purl place ∧ place ≠ "" := by
  rw [mem_places, EvidenceMaps.HasPlace, TextMap.relates_iff]
  rfl

namespace Bom

def Component.occurrences (component : Component) : Option (List Occurrence) :=
  component.evidence.bind Evidence.occurrences

namespace Component

@[simp] theorem attach_purl (maps : EvidenceMaps) (component : Component) :
    (component.attach maps).purl = component.purl := by
  unfold attach
  dsimp only
  split <;> rfl

theorem attach_of_no_purl {maps : EvidenceMaps} {component : Component}
    (noPackage : component.purl = none) :
    component.attach maps = { component with signature := none } := by
  unfold attach
  dsimp only
  rw [noPackage]

theorem attach_of_purl {maps : EvidenceMaps} {component : Component} {purl : String}
    (isPackage : component.purl = some purl) :
    component.attach maps = { component with
      signature := none
      evidence := (EvidenceUpdate.ofMaps maps purl).mergeInto component.evidence
      tags :=
        if (providedBy? maps purl).isSome then some (mergedTexts component.tags providerTags)
        else component.tags } := by
  unfold attach
  dsimp only
  rw [isPackage]

/-- The occurrences of a package are its places in order, or those it had. -/
theorem attach_occurrences {maps : EvidenceMaps} {component : Component} {purl : String}
    (isPackage : component.purl = some purl) :
    (component.attach maps).occurrences =
      if (EvidenceUpdate.ofMaps maps purl).places.isEmpty then component.occurrences
      else some ((EvidenceUpdate.ofMaps maps purl).places.map fun place => ⟨place, ∅⟩) := by
  rw [attach_of_purl isPackage]
  exact EvidenceUpdate.merge_into_occurrences _ _

theorem attach_locations {maps : EvidenceMaps} {component : Component} {purl : String}
    (isPackage : component.purl = some purl)
    (placed : (EvidenceUpdate.ofMaps maps purl).places ≠ []) :
    (component.attach maps).locations = (EvidenceUpdate.ofMaps maps purl).places := by
  have occurrences : (component.attach maps).occurrences = _ := attach_occurrences isPackage
  rw [if_neg (by rwa [List.isEmpty_iff])] at occurrences
  change (((component.attach maps).occurrences).getD []).map Occurrence.location = _
  rw [occurrences, Option.getD_some, List.map_map]
  exact List.map_id' _

end Component

theorem Document.attach_component {document : Document} {maps : EvidenceMaps}
    {records : Option (List SliceRecord)} {now : Instant} {position : Nat} {component : Component}
    (found : document.components[position]? = some component) :
    (document.attach maps records now).components[position]? = some (component.attach maps) := by
  have bound : position < (document.components.map (Component.attach maps)).length := by
    rw [List.length_map]
    exact (List.getElem?_eq_some_iff.1 found).1
  change (document.components.map (Component.attach maps) ++ _)[position]? = _
  rw [List.getElem?_append_left bound, List.getElem?_map, found]
  rfl

end Bom

end BomEvidence
