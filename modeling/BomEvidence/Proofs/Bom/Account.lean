import BomEvidence.Proofs.Bom.Untouched
import BomEvidence.Proofs.Resolution.Counted

/-!
What attaching evidence writes, and how it is summed up. Into each component goes a list of
occurrences or none, the frames of a call stack or none, and tags or none. As long as no place is
the empty text, the summary and the counters tell how many components got which.
-/

namespace BomEvidence

namespace Bom

structure Attachment where
  occurrences : Option (List Occurrence)
  frames : Option (List Frame)
  tagged : Bool

namespace Component

def frames (component : Component) : Option (List Frame) := component.callstack.bind Callstack.frames

/-- What is written into a component stands in it afterwards, whatever evidence and tags it had, and
what it had stays where nothing is written. No empty list is written. -/
structure Receives (maps : EvidenceMaps) (component : Component) (attachment : Attachment) :
    Prop where
  occurrences : ∀ evidence, ({ component with evidence }.attach maps).occurrences =
    attachment.occurrences.or { component with evidence }.occurrences
  frames : ∀ evidence, ({ component with evidence }.attach maps).frames =
    attachment.frames.or { component with evidence }.frames
  tags : ∀ tags, ({ component with tags }.attach maps).tags =
    if attachment.tagged then some (mergedTexts tags providerTags) else tags
  someOccurrences : attachment.occurrences ≠ some []
  someFrames : attachment.frames ≠ some []

def attachment (maps : EvidenceMaps) (component : Component) : Attachment :=
  match component.purl with
  | none => ⟨none, none, false⟩
  | some purl =>
      let update := EvidenceUpdate.ofMaps maps purl
      { occurrences :=
          if update.places.isEmpty then none
          else some (update.places.map fun place => ⟨place, ∅⟩)
        frames := update.frames
        tagged := (providedBy? maps purl).isSome }

theorem occurrences_of_attach (maps : EvidenceMaps) (component : Component) :
    (component.attach maps).occurrences =
      (component.attachment maps).occurrences.or component.occurrences := by
  cases named : component.purl with
  | none => simp [attach_of_no_purl named, attachment, named, occurrences]
  | some purl =>
      rw [attach_occurrences named]
      simp only [attachment, named]
      split <;> rfl

theorem frames_of_attach (maps : EvidenceMaps) (component : Component) :
    (component.attach maps).frames = (component.attachment maps).frames.or component.frames := by
  cases named : component.purl with
  | none => simp [attach_of_no_purl named, attachment, named, frames, callstack]
  | some purl =>
      have merged := EvidenceUpdate.merge_into_callstack (EvidenceUpdate.ofMaps maps purl)
        component.evidence
      have written : (component.attachment maps).frames = (EvidenceUpdate.ofMaps maps purl).frames := by
        simp [attachment, named]
      unfold frames callstack
      rw [attach_of_purl named, merged, written]
      cases (EvidenceUpdate.ofMaps maps purl).frames <;> rfl

theorem tags_of_attach (maps : EvidenceMaps) (component : Component) :
    (component.attach maps).tags =
      if (component.attachment maps).tagged then some (mergedTexts component.tags providerTags)
      else component.tags := by
  cases named : component.purl with
  | none => simp [attach_of_no_purl named, attachment, named]
  | some purl => simp [attach_of_purl named, attachment, named]

theorem receives_attachment (maps : EvidenceMaps) (component : Component) :
    component.Receives maps (component.attachment maps) := by
  constructor
  · intro evidence
    exact occurrences_of_attach maps { component with evidence }
  · intro evidence
    exact frames_of_attach maps { component with evidence }
  · intro tags
    exact tags_of_attach maps { component with tags }
  · cases named : component.purl with
    | none => simp [attachment, named]
    | some purl => simp [attachment, named]
  · cases named : component.purl with
    | none => simp [attachment, named]
    | some purl =>
        intro empty
        simp only [attachment, named] at empty
        have kept := (Option.filter_eq_some_iff.1 empty).2
        simp at kept

end Component

end Bom

def EvidenceMaps.Located (maps : EvidenceMaps) : Prop :=
  ∀ purl place, maps.HasPlace purl place → place ≠ ""

theorem EvidenceMaps.Located.places_eq {maps : EvidenceMaps} (located : maps.Located)
    (purl : String) : (EvidenceUpdate.ofMaps maps purl).places =
      (EvidenceUpdate.ofMaps maps purl).locations.toList := by
  unfold EvidenceUpdate.places
  rw [List.filter_eq_self]
  intro place member
  rw [bne_iff_ne]
  exact located purl place (TextMap.relates_iff.2 member)

namespace Bom.Document

variable {maps : EvidenceMaps}

def attachments (maps : EvidenceMaps) (document : Document) : List Attachment :=
  document.components.map (Component.attachment maps)

theorem receives_attachments (maps : EvidenceMaps) (document : Document) :
    List.Forall₂ (Component.Receives maps) document.components (document.attachments maps) := by
  unfold attachments
  rw [List.forall₂_map_right_iff, List.forall₂_same]
  intro component _
  exact Component.receives_attachment maps component

theorem count_of_packages {components : List Component} {test : String → Bool}
    {own : Component → Bool}
    (same : ∀ component : Component, own component = component.purl.any test) :
    (components.filterMap Component.purl).countP test = components.countP own := by
  rw [List.countP_filterMap]
  apply List.countP_congr
  intro component _
  rw [same]
  cases component.purl <;> rfl

theorem summary_occurrences (located : maps.Located) (document : Document) :
    (document.attachSummary maps).occurrences =
      (document.attachments maps).countP fun written => written.occurrences.isSome := by
  unfold attachSummary updates attachments
  dsimp only
  rw [List.countP_map, List.countP_map]
  apply count_of_packages
  intro component
  cases named : component.purl with
  | none => simp [Component.attachment, named]
  | some purl =>
      simp only [Function.comp_apply, Component.attachment, named, Option.any_some]
      rw [located.places_eq]
      change _ = !(EvidenceUpdate.ofMaps maps purl).locations.toList.isEmpty
      cases (EvidenceUpdate.ofMaps maps purl).locations.toList <;> rfl

theorem counted_places (located : maps.Located) (document : Document) :
    Tally.sumOf ((document.updates maps).map fun update => update.locations.size) =
      Tally.sumOf
        (((document.attachments maps).filterMap Attachment.occurrences).map List.length) := by
  unfold updates attachments
  induction document.components with
  | nil => rfl
  | cons component rest ih =>
      cases named : component.purl with
      | none =>
          have nothing : (component.attachment maps).occurrences = none := by
            simp [Component.attachment, named]
          simpa [named, nothing] using ih
      | some purl =>
          let locations := (EvidenceUpdate.ofMaps maps purl).locations
          have written : (component.attachment maps).occurrences =
              if locations.toList.isEmpty then none
              else some (locations.toList.map fun place => ⟨place, ∅⟩) := by
            simp only [Component.attachment, named, located.places_eq]
            rfl
          have counted : locations.size = locations.toList.length := rfl
          rw [List.filterMap_cons_some named, List.map_cons, List.map_cons, List.map_cons,
            Tally.sumOf, ih, List.filterMap_cons, written]
          cases places : locations.toList with
          | nil => simp [locations, counted, places]
          | cons place others => simp [locations, counted, places, Tally.sumOf]

theorem summary_callstacks (maps : EvidenceMaps) (document : Document) :
    (document.attachSummary maps).callstacks =
      (document.attachments maps).countP fun written => written.frames.isSome := by
  unfold attachSummary updates attachments
  dsimp only
  rw [List.countP_map, List.countP_map]
  apply count_of_packages
  intro component
  cases named : component.purl <;> simp [Component.attachment, named]

theorem summary_providers (maps : EvidenceMaps) (document : Document) :
    (document.attachSummary maps).providers =
      (document.attachments maps).countP fun written => written.tagged := by
  unfold attachSummary attachments
  rw [List.countP_map]
  apply count_of_packages
  intro component
  cases named : component.purl <;> simp [Component.attachment, named]

/-! ### What is summed up at all -/

def Lists (document : Document) (purl : String) : Prop :=
  ∃ component ∈ document.components, component.purl = some purl

section Summary

variable {document : Document}

theorem count_updates_pos {test : EvidenceUpdate → Bool} :
    0 < (document.updates maps).countP test ↔
      ∃ purl, document.Lists purl ∧ test (EvidenceUpdate.ofMaps maps purl) = true := by
  unfold updates Lists
  rw [List.countP_pos_iff]
  simp only [List.mem_map, List.mem_filterMap, exists_exists_and_eq_and]

theorem summary_has_places : 0 < (document.attachSummary maps).occurrences ↔
    ∃ purl, document.Lists purl ∧ ∃ place, maps.HasPlace purl place := by
  refine count_updates_pos.trans (exists_congr fun purl => and_congr_right fun _ => ?_)
  rw [Bool.not_eq_true', TextSet.isEmpty, List.isEmpty_eq_false_iff_exists_mem]
  exact exists_congr fun place => TextMap.relates_iff.symm

theorem summary_has_callstacks : 0 < (document.attachSummary maps).callstacks ↔
    ∃ purl, document.Lists purl ∧ ∃ picked, Picks (maps.stacksOf purl) picked ∧ picked ≠ [] := by
  refine count_updates_pos.trans (exists_congr fun purl => and_congr_right fun _ => ?_)
  rw [EvidenceUpdate.frames_of_maps, Option.isSome_iff_exists]
  refine exists_congr fun picked => ?_
  rw [Option.filter_eq_some_iff, pick_frames_iff, Bool.not_eq_true', List.isEmpty_eq_false_iff]

theorem summary_has_evidence : (document.attachSummary maps).hasEvidence = true ↔
    (∃ purl, document.Lists purl ∧ ∃ place, maps.HasPlace purl place) ∨
      (∃ purl, document.Lists purl ∧ ∃ picked, Picks (maps.stacksOf purl) picked ∧ picked ≠ []) ∨
      0 < maps.services.size := by
  unfold AttachSummary.hasEvidence
  rw [Bool.or_eq_true, Bool.or_eq_true, decide_eq_true_eq, decide_eq_true_eq, decide_eq_true_eq,
    summary_has_places, summary_has_callstacks, or_assoc]
  rfl

end Summary

/-! ### The components -/

theorem inputs_of_attach (maps : EvidenceMaps) (document : Document)
    (records : Option (List SliceRecord)) (now : Instant) :
    (document.attach maps records now).components.take document.components.length =
      document.components.map (Component.attach maps) :=
  List.take_left' (List.length_map (Component.attach maps))

theorem length_of_attach (maps : EvidenceMaps) (document : Document)
    (records : Option (List SliceRecord)) (now : Instant) :
    (document.attach maps records now).components.length =
      document.components.length + (document.attachSummary maps).algorithms := by
  simp [attach, attachedComponents, attachSummary]

/-! ### The counters -/

theorem attach_counts (maps : EvidenceMaps) (document : Document) :
    (document.attachTally maps).OfSource .attaching :=
  (((Tally.of_source_empty .attaching).add rfl _).add rfl _).add rfl _

theorem counted_occurrences (located : maps.Located) (document : Document) :
    (document.attachTally maps).total .occurrence =
      Tally.sumOf
        (((document.attachments maps).filterMap Attachment.occurrences).map List.length) := by
  rw [← counted_places located]
  simp [attachTally, Tally.total_add]
  rfl

theorem counted_callstacks (maps : EvidenceMaps) (document : Document) :
    (document.attachTally maps).total .callstack = (document.attachSummary maps).callstacks := by
  simp [attachTally, Tally.total_add]
  rfl

theorem counted_services (maps : EvidenceMaps) (document : Document) :
    (document.attachTally maps).total .service = (document.attachSummary maps).services := by
  simp [attachTally, Tally.total_add]
  rfl

end Bom.Document

end BomEvidence
