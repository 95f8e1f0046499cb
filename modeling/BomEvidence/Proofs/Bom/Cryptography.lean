import BomEvidence.Proofs.Bom.Account

/-!
What evidence writes into a document besides cryptography. The tags of components, the components
of algorithms, what dependencies provide and the annotations are left out of sight. The rest is a
matter of the places, the call stacks and the services alone.
-/

namespace BomEvidence

namespace EvidenceUpdate

variable {first second : EvidenceMaps} {purl : String}

theorem locations_congr
    (places : ∀ place, first.HasPlace purl place ↔ second.HasPlace purl place) :
    (ofMaps first purl).locations = (ofMaps second purl).locations :=
  TextSet.ext_mem fun place =>
    TextMap.relates_iff.symm.trans ((places place).trans TextMap.relates_iff)

theorem places_congr
    (places : ∀ place, first.HasPlace purl place ↔ second.HasPlace purl place) :
    (ofMaps first purl).places = (ofMaps second purl).places := by
  unfold EvidenceUpdate.places
  rw [locations_congr places]

theorem of_maps_congr
    (places : ∀ place, first.HasPlace purl place ↔ second.HasPlace purl place)
    (callstacks : first.stacksOf purl = second.stacksOf purl) :
    ofMaps first purl = ofMaps second purl := by
  have frames : (ofMaps first purl).frames = (ofMaps second purl).frames := by
    rw [frames_of_maps, frames_of_maps, callstacks]
  exact (EvidenceUpdate.mk.injEq ..).mpr ⟨locations_congr places, frames⟩

theorem merge_into_uncalled (update : EvidenceUpdate) (existing : Option Bom.Evidence) :
    { (update.mergeInto existing).getD default with callstack := none } =
      { existing.getD default with
        occurrences :=
          if update.places.isEmpty then (existing.getD default).occurrences
          else some (update.places.map fun place => ⟨place, ∅⟩)
        callstack := none } := by
  unfold mergeInto
  by_cases nothing : update.isEmpty = true
  · have noPlaces : update.places.isEmpty = true := (Bool.and_eq_true_iff.1 nothing).1
    rw [if_pos nothing, if_pos noPlaces]
  · rw [if_neg nothing]
    rfl

end EvidenceUpdate

namespace Bom

namespace Component

def untagged (component : Component) : Component := { component with tags := none }

/-- A component without its tags and its call stack. Evidence that is absent counts as evidence of
nothing. -/
def uncalled (component : Component) : Component :=
  { component.untagged with
    evidence := some { component.evidence.getD default with callstack := none } }

variable {first second : EvidenceMaps} {component : Component}

theorem untagged_attach
    (updates : ∀ purl, component.purl = some purl →
      EvidenceUpdate.ofMaps first purl = EvidenceUpdate.ofMaps second purl) :
    (component.attach first).untagged = (component.attach second).untagged := by
  cases isPackage : component.purl with
  | none => rw [attach_of_no_purl isPackage, attach_of_no_purl isPackage]
  | some purl =>
      rw [attach_of_purl isPackage, attach_of_purl isPackage, updates purl isPackage]
      rfl

theorem uncalled_attach
    (places : ∀ purl place, first.HasPlace purl place ↔ second.HasPlace purl place)
    (component : Component) :
    (component.attach first).uncalled = (component.attach second).uncalled := by
  cases isPackage : component.purl with
  | none => rw [attach_of_no_purl isPackage, attach_of_no_purl isPackage]
  | some purl =>
      rw [attach_of_purl isPackage, attach_of_purl isPackage]
      unfold uncalled untagged
      dsimp only
      rw [EvidenceUpdate.merge_into_uncalled, EvidenceUpdate.merge_into_uncalled,
        EvidenceUpdate.places_congr (places purl)]

end Component

namespace Document

/-- A document without what is there for cryptography, in which the given number of components is
seen in some way, and no other component. -/
def uncrypted (view : Component → Component) (count : Nat) (document : Document) : Document :=
  { document with
    components := (document.components.take count).map view
    dependencies := document.dependencies.map (·.map Dependency.unproviding)
    annotations := none }

theorem uncrypted_attach {document : Document} {first second : EvidenceMaps}
    {view : Component → Component} (services : first.services = second.services)
    (each : ∀ component ∈ document.components,
      view (component.attach first) = view (component.attach second))
    (records others : Option (List SliceRecord)) (now : Instant) :
    (document.attach first records now).uncrypted view document.components.length =
      (document.attach second others now).uncrypted view document.components.length := by
  have dependencies := (attach_keeps_rest document first records now).dependencies.trans
    (attach_keeps_rest document second others now).dependencies.symm
  have components : (document.components.map (Component.attach first)).map view =
      (document.components.map (Component.attach second)).map view := by
    rw [List.map_map, List.map_map]
    exact List.map_congr_left each
  unfold uncrypted
  rw [inputs_of_attach, inputs_of_attach, components, dependencies]
  unfold attach
  rw [services]

end Document

end Bom

end BomEvidence
