import BomEvidence.Proofs.Bom.Untouched
import BomEvidence.Proofs.Evidence.Places
import BomEvidence.Proofs.Sorted.Bytes

/-!
Documents whose own places are attached to them and nothing else. Such a document keeps everything
but its version, its time, the signatures and the occurrences of packages that are used somewhere.
The occurrences are kept as well where they are settled: where they are all places that the
document tells of the package, in order, each once and without other members.
-/

namespace BomEvidence

/-- Maps that hold the places that components tell, and nothing else. -/
structure EvidenceMaps.Repeats (components : List Bom.Component) (maps : EvidenceMaps) : Prop where
  places : ∀ purl place, maps.HasPlace purl place ↔ Bom.Places components purl place
  callstacks : maps.callstacks = ∅
  providers : maps.providers = ∅
  algorithms : maps.algorithms = ∅
  services : maps.services = ∅

theorem EvidenceUpdate.merge_into_of_no_frames {update : EvidenceUpdate}
    (noFrames : update.frames = none) (existing : Option Bom.Evidence) :
    update.mergeInto existing =
      if update.places.isEmpty then existing
      else some { existing.getD default with
        occurrences := some (update.places.map fun place => ⟨place, ∅⟩) } := by
  unfold mergeInto isEmpty
  rw [noFrames, Option.isNone_none, Bool.and_true]
  by_cases noPlaces : update.places.isEmpty = true
  · rw [if_pos noPlaces, if_pos noPlaces]
  · rw [if_neg noPlaces, if_neg noPlaces]
    dsimp only
    rw [if_neg noPlaces]

namespace EvidenceMaps.Repeats

variable {components : List Bom.Component} {maps : EvidenceMaps}

theorem mem_places (repeated : maps.Repeats components) {purl place : String} :
    place ∈ (EvidenceUpdate.ofMaps maps purl).places ↔ Bom.Places components purl place := by
  rw [EvidenceUpdate.mem_of_maps, repeated.places, and_iff_left_iff_imp]
  rintro ⟨_, _, _, _, nonempty⟩
  exact nonempty

theorem update_frames (repeated : maps.Repeats components) (purl : String) :
    (EvidenceUpdate.ofMaps maps purl).frames = none := by
  unfold EvidenceUpdate.ofMaps
  rw [repeated.callstacks]
  rfl

theorem provided_by (repeated : maps.Repeats components) (purl : String) :
    Bom.providedBy? maps purl = none := by
  unfold Bom.providedBy?
  rw [repeated.providers]
  rfl

end EvidenceMaps.Repeats

namespace Bom

/-! ### Components -/

namespace Component

def unsigned (component : Component) : Component := { component with signature := none }

/-- A component without its signature and its occurrences. Evidence that is absent counts as
evidence of nothing. -/
def unplaced (component : Component) : Component :=
  { component.unsigned with
    evidence := some { component.evidence.getD default with occurrences := none } }

/-- The occurrences of a component of a package are the places that components tell of the package,
in the order of their bytes and without other members, if there are any such places. -/
def Settled (components : List Component) (component : Component) : Prop :=
  ∀ purl, component.purl = some purl → (∃ place, Places components purl place) →
    ∃ texts : List String, component.occurrences = some (texts.map fun text => ⟨text, ∅⟩) ∧
      texts.Pairwise (fun first second => bytesOf first < bytesOf second) ∧
      ∀ place, place ∈ texts ↔ Places components purl place

variable {components : List Component} {maps : EvidenceMaps} {component : Component}

theorem attach_of_repeats (repeated : maps.Repeats components) {purl : String}
    (isPackage : component.purl = some purl) :
    component.attach maps = { component.unsigned with
      evidence :=
        if (EvidenceUpdate.ofMaps maps purl).places.isEmpty then component.evidence
        else some { component.evidence.getD default with
          occurrences :=
            some ((EvidenceUpdate.ofMaps maps purl).places.map fun place => ⟨place, ∅⟩) } } := by
  rw [attach_of_purl isPackage, repeated.provided_by,
    EvidenceUpdate.merge_into_of_no_frames (repeated.update_frames purl)]
  rfl

theorem evidence_eq_iff {occurrences : List Occurrence} :
    some { component.evidence.getD default with occurrences := some occurrences } =
        component.evidence ↔ component.occurrences = some occurrences := by
  unfold Component.occurrences
  cases component.evidence with
  | none => exact ⟨nofun, nofun⟩
  | some evidence =>
      obtain ⟨held, callstack, extra⟩ := evidence
      simp [eq_comm]

theorem unplaced_attach (repeated : maps.Repeats components) (component : Component) :
    (component.attach maps).unplaced = component.unplaced := by
  cases isPackage : component.purl with
  | none =>
      rw [attach_of_no_purl isPackage]
      rfl
  | some purl =>
      rw [attach_of_repeats repeated isPackage]
      split <;> rfl

theorem settled_iff (repeated : maps.Repeats components) {purl : String}
    (isPackage : component.purl = some purl) :
    component.Settled components ↔
      ((EvidenceUpdate.ofMaps maps purl).places ≠ [] → component.occurrences =
        some ((EvidenceUpdate.ofMaps maps purl).places.map fun place => ⟨place, ∅⟩)) := by
  have told : (∃ place, Places components purl place) ↔
      (EvidenceUpdate.ofMaps maps purl).places ≠ [] := by
    rw [ne_eq, List.eq_nil_iff_forall_not_mem, not_forall_not]
    exact exists_congr fun place => repeated.mem_places.symm
  constructor
  · intro settled placed
    obtain ⟨texts, occurrences, ascending, members⟩ := settled purl isPackage (told.2 placed)
    have same : texts = (EvidenceUpdate.ofMaps maps purl).places :=
      EvidenceUpdate.eq_places_of_members (ascending.imp lt_iff_bytes_lt.2) fun place =>
        (members place).trans repeated.mem_places.symm
    rw [occurrences, same]
  · intro same other isOther place
    obtain rfl : other = purl := Option.some.inj (isOther.symm.trans isPackage)
    refine ⟨_, same (told.1 place), ?_, fun place => repeated.mem_places⟩
    exact (EvidenceUpdate.places_ascending _).imp lt_iff_bytes_lt.1

theorem unsigned_attach_iff (repeated : maps.Repeats components) (component : Component) :
    (component.attach maps).unsigned = component.unsigned ↔ component.Settled components := by
  cases isPackage : component.purl with
  | none =>
      refine iff_of_true ?_ fun purl isOther => ?_
      · rw [attach_of_no_purl isPackage]
        rfl
      · rw [isPackage] at isOther
        cases isOther
  | some purl =>
      rw [settled_iff repeated isPackage, attach_of_repeats repeated isPackage]
      cases places : (EvidenceUpdate.ofMaps maps purl).places with
      | nil => exact iff_of_true rfl fun placed => absurd rfl placed
      | cons first rest =>
          have placed : (EvidenceUpdate.ofMaps maps purl).places ≠ [] := by simp [places]
          rw [List.isEmpty_cons, if_neg Bool.false_ne_true, ← places, imp_iff_right placed,
            ← evidence_eq_iff]
          constructor
          · intro same
            exact congrArg Component.evidence same
          · intro same
            rw [same]
            rfl

end Component

/-! ### Documents -/

namespace Document

/-- A document without its version, its time and the signatures. Metadata that are absent count as
metadata of nothing. -/
def unstamped (document : Document) : Document :=
  { document with
    version := none
    metadata := some (document.metadata.getD default).timeless
    components := document.components.map Component.unsigned
    extra := document.extra.erase "signature" }

def unplaced (document : Document) : Document :=
  { document.unstamped with components := document.components.map Component.unplaced }

variable {document : Document} {maps : EvidenceMaps}

theorem attach_of_repeats (repeated : maps.Repeats document.components) (now : Instant) :
    document.attach maps none now = { document with
      version := some (document.version.getD 1 + 1)
      metadata := some { document.metadata.getD default with timestamp := some now.text }
      components := document.components.map (Component.attach maps)
      extra := document.extra.erase "signature" } := by
  have components : document.attachedComponents maps =
      document.components.map (Component.attach maps) := by
    unfold attachedComponents newAlgorithms
    rw [repeated.algorithms]
    exact List.append_nil _
  have dependencies : document.dependencies.map (·.map (Dependency.attach maps)) =
      document.dependencies := by
    have same : Dependency.attach maps = id :=
      funext fun dependency => Dependency.attach_of_none (repeated.provided_by _)
    rw [same]
    cases document.dependencies <;> simp
  unfold attach
  rw [components, dependencies, repeated.services]
  rfl

theorem unplaced_attach (repeated : maps.Repeats document.components) (now : Instant) :
    (document.attach maps none now).unplaced = document.unplaced := by
  have components : (document.components.map (Component.attach maps)).map Component.unplaced =
      document.components.map Component.unplaced := by
    rw [List.map_map]
    exact List.map_congr_left fun component _ => Component.unplaced_attach repeated component
  rw [attach_of_repeats repeated]
  unfold unplaced unstamped
  rw [components, TextMap.erase_erase]
  rfl

theorem unstamped_attach_iff (repeated : maps.Repeats document.components) (now : Instant) :
    (document.attach maps none now).unstamped = document.unstamped ↔
      ∀ component ∈ document.components, component.Settled document.components := by
  have components : (document.attach maps none now).unstamped = document.unstamped ↔
      (document.components.map (Component.attach maps)).map Component.unsigned =
        document.components.map Component.unsigned := by
    rw [attach_of_repeats repeated]
    constructor
    · intro same
      exact congrArg Document.components same
    · intro same
      unfold unstamped
      rw [same, TextMap.erase_erase]
      rfl
  rw [components, List.map_map, List.map_inj_left]
  exact forall₂_congr fun component _ => Component.unsigned_attach_iff repeated component

end Document

end Bom

end BomEvidence
