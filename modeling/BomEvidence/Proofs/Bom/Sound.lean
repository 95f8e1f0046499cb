import BomEvidence.Proofs.Bom.Attached
import BomEvidence.Proofs.Bom.Codec

/-!
Attaching evidence to a sound document gives a sound document, so that what a run writes is
read back as it was written.
-/

namespace BomEvidence

open Json (Others)

namespace Bom

structure Evidence.Extras (ofOccurrence ofCallstack own : TextMap Json → Prop)
    (evidence : Evidence) : Prop where
  occurrences : ∀ occurrences, evidence.occurrences = some occurrences →
    ∀ occurrence ∈ occurrences, ofOccurrence occurrence.extra
  callstack : ∀ callstack, evidence.callstack = some callstack → ofCallstack callstack.extra
  extra : own evidence.extra

theorem Evidence.merge_into_extras {ofOccurrence ofCallstack own : TextMap Json → Prop}
    (noOccurrence : ofOccurrence ∅) (noCallstack : ofCallstack ∅) (nothing : own ∅)
    (update : EvidenceUpdate) {existing : Option Evidence}
    (hold : ∀ evidence, existing = some evidence →
      evidence.Extras ofOccurrence ofCallstack own) :
    ∀ evidence, update.mergeInto existing = some evidence →
      evidence.Extras ofOccurrence ofCallstack own := by
  intro evidence merged
  unfold EvidenceUpdate.mergeInto at merged
  split at merged
  · exact hold evidence merged
  · have base : (existing.getD default).Extras ofOccurrence ofCallstack own := by
      cases existing with
      | none => exact ⟨nofun, nofun, nothing⟩
      | some held => exact hold held rfl
    cases merged
    constructor
    · intro occurrences held occurrence member
      dsimp only at held
      split at held
      · exact base.occurrences occurrences held occurrence member
      · cases held
        obtain ⟨place, _, rfl⟩ := List.mem_map.1 member
        exact noOccurrence
    · intro callstack held
      dsimp only at held
      split at held
      · exact base.callstack callstack held
      · cases held
        cases present : (existing.getD default).callstack with
        | none => exact noCallstack
        | some old => exact base.callstack old present
    · exact base.extra

theorem Evidence.merge_into_sound (update : EvidenceUpdate) {existing : Option Evidence}
    (sound : ∀ evidence, existing = some evidence → evidence.Sound) :
    ∀ evidence, update.mergeInto existing = some evidence → evidence.Sound := by
  intro evidence merged
  have extras := Evidence.merge_into_extras (Others.none ["location"]) (Others.none ["frames"])
    (Others.none ["occurrences", "callstack"]) update
    (fun held present =>
      ⟨(sound held present).occurrences, (sound held present).callstack, (sound held present).extra⟩)
    evidence merged
  exact ⟨extras.occurrences, extras.callstack, extras.extra⟩

theorem Component.attach_sound (maps : EvidenceMaps) (component : Component)
    (sound : component.Sound) : (component.attach maps).Sound := by
  cases isPackage : component.purl with
  | none =>
      rw [attach_of_no_purl isPackage]
      exact ⟨sound.evidence, nofun, sound.extra⟩
  | some purl =>
      rw [attach_of_purl isPackage]
      exact ⟨Evidence.merge_into_sound _ sound.evidence, nofun, sound.extra⟩

theorem Component.sound_of_algorithm (hasAlgorithms : Bool) (algorithm : Algorithm) :
    (Component.ofAlgorithm hasAlgorithms algorithm).Sound := by
  refine ⟨nofun, nofun, ?_⟩
  cases hasAlgorithms with
  | false => exact Others.none _
  | true =>
      let properties := Json.object ([("assetType", .text "algorithm")] ++
        (algorithm.oid.map fun oid => ("oid", Json.text oid)).toList)
      have canonical : properties.Canonical := by
        apply Json.canonical_object
        · cases algorithm.oid with
          | none => exact List.pairwise_singleton _ _
          | some oid =>
              change ["assetType", "oid"].Pairwise (· < ·)
              decide
        · intro member among
          rcases List.mem_append.1 among with type | identifier
          · rw [List.mem_singleton.1 type]
            rfl
          · obtain ⟨oid, _, rfl⟩ := Option.map_eq_some_iff.1 (Option.mem_toList.1 identifier)
            rfl
      constructor
      · intro name member
        change ((∅ : TextMap Json).insert "cryptoProperties" properties).get? name = none
        rw [TextMap.get_insert, if_neg]
        · rfl
        · intro same
          subst same
          revert member
          decide
      · intro key value held
        change ((∅ : TextMap Json).insert "cryptoProperties" properties).get? key = some value at held
        rw [TextMap.get_insert] at held
        split at held
        · cases held
          exact canonical
        · cases held

theorem ServiceEntry.merge_named_extras {own : TextMap Json → Prop} (nothing : own ∅) (name : String)
    (service : Service) {entries : List ServiceEntry} (hold : ∀ entry ∈ entries, own entry.extra) :
    ∀ entry ∈ mergeNamed name service entries, own entry.extra := by
  induction entries with
  | nil =>
      intro entry member
      rw [List.mem_singleton.1 member]
      exact nothing
  | cons head rest ih =>
      obtain ⟨headHolds, restHold⟩ := List.forall_mem_cons.1 hold
      intro entry member
      unfold mergeNamed at member
      split at member
      · rcases List.mem_cons.1 member with rfl | member
        · exact headHolds
        · exact restHold entry member
      · rcases List.mem_cons.1 member with rfl | member
        · exact headHolds
        · exact ih restHold entry member

theorem ServiceEntry.merge_all_extras {own : TextMap Json → Prop} (nothing : own ∅)
    (services : ServiceMap) {entries : List ServiceEntry}
    (hold : ∀ entry ∈ entries, own entry.extra) :
    ∀ entry ∈ mergeAll services entries, own entry.extra := by
  rw [merge_all_eq_merge_each]
  generalize services.entries = added
  induction added generalizing entries with
  | nil => exact hold
  | cons head rest ih => exact ih (merge_named_extras nothing head.1 head.2 hold)

section Attached

variable {document : Document} {maps : EvidenceMaps} {records : Option (List SliceRecord)}
  {now : Instant}

theorem Document.attach_metadata {Holds : Metadata → Prop} (fresh : Holds default)
    (timed : ∀ metadata time, Holds metadata → Holds { metadata with timestamp := time })
    (held : ∀ metadata, document.metadata = some metadata → Holds metadata) :
    ∀ metadata, (document.attach maps records now).metadata = some metadata → Holds metadata := by
  intro metadata present
  cases present
  apply timed
  cases before : document.metadata with
  | none => exact fresh
  | some old => exact held old before

theorem Document.attach_components {Holds : Component → Prop}
    (keeps : ∀ component, Holds component → Holds (component.attach maps))
    (made : ∀ hasAlgorithms algorithm, Holds (Component.ofAlgorithm hasAlgorithms algorithm))
    (held : ∀ component ∈ document.components, Holds component) :
    ∀ component ∈ (document.attach maps records now).components, Holds component := by
  intro component member
  rcases List.mem_append.1 member with old | new
  · obtain ⟨before, among, rfl⟩ := List.mem_map.1 old
    exact keeps before (held before among)
  · obtain ⟨algorithm, _, rfl⟩ := List.mem_map.1 new
    exact made _ algorithm

theorem Document.attach_services {own : TextMap Json → Prop} (nothing : own ∅)
    (held : ∀ services, document.services = some services → ∀ entry ∈ services, own entry.extra) :
    ∀ services, (document.attach maps records now).services = some services →
      ∀ entry ∈ services, own entry.extra := by
  intro services present
  unfold attach at present
  dsimp only at present
  split at present
  · exact held services present
  · cases present
    apply ServiceEntry.merge_all_extras nothing
    cases before : document.services with
    | none => exact List.forall_mem_nil _
    | some old => exact held old before

theorem Document.attach_dependencies {own : TextMap Json → Prop}
    (held : ∀ dependencies, document.dependencies = some dependencies →
      ∀ dependency ∈ dependencies, own dependency.extra) :
    ∀ dependencies, (document.attach maps records now).dependencies = some dependencies →
      ∀ dependency ∈ dependencies, own dependency.extra := by
  apply Json.optional_list_holds ?_ held
  intro dependency holds
  unfold Dependency.attach
  split <;> exact holds

theorem Document.attach_annotations {Holds : Json → Prop}
    (made : ∀ slices, records = some slices →
      ∀ slice ∈ slices, Holds (document.annotation now slice))
    (held : ∀ annotations, document.annotations = some annotations →
      ∀ annotation ∈ annotations, Holds annotation) :
    ∀ annotations, (document.attach maps records now).annotations = some annotations →
      ∀ annotation ∈ annotations, Holds annotation := by
  intro annotations present
  cases given : records with
  | none =>
      rw [given] at present
      exact held annotations present
  | some slices =>
      rw [given] at present
      cases present
      exact List.forall_mem_map.2 (made slices given)

end Attached

theorem Metadata.sound_default : (default : Metadata).Sound :=
  ⟨nofun, Others.none _⟩

theorem Document.first_tool_canonical {document : Document} (sound : document.Sound) {tool : Json}
    (found : document.firstTool? = some tool) : tool.Canonical := by
  simp only [firstTool?, Option.bind_eq_bind, Option.bind_eq_some_iff] at found
  obtain ⟨metadata, present, tools, hasTools, found⟩ := found
  have canonical := ((sound.metadata metadata present).tools tools hasTools).1
  rcases Option.or_eq_some_iff.1 found with listed | ⟨_, first⟩
  · obtain ⟨components, member, item⟩ := Option.bind_eq_some_iff.1 listed
    exact Json.canonical_item (Json.canonical_member canonical member) item
  · exact Json.canonical_item canonical first

theorem Document.annotation_canonical {document : Document} (sound : document.Sound)
    (now : Instant) (slice : SliceRecord) : (document.annotation now slice).Canonical := by
  have tool : (document.firstTool?.getD ownComponent).Canonical := by
    cases found : document.firstTool? with
    | none => rfl
    | some tool => exact first_tool_canonical sound found
  have annotator : (Json.object [("component", document.firstTool?.getD ownComponent)]).Canonical := by
    apply Json.canonical_object (List.pairwise_singleton _ _)
    intro member among
    rw [List.mem_singleton.1 among]
    exact tool
  have subjects : Json.Canonical <| annotation.textsOf document.serialNumber := by
    apply Json.canonical_array
    intro item among
    obtain ⟨text, _, rfl⟩ := List.mem_map.1 among
    rfl
  apply Json.canonical_object
  · change ["annotator", "subjects", "text", "timestamp"].Pairwise (· < ·)
    decide
  · intro member among
    simp only [List.mem_cons, List.not_mem_nil, or_false] at among
    rcases among with rfl | rfl | rfl | rfl
    · exact annotator
    · exact subjects
    · rfl
    · rfl

theorem Document.attach_sound {document : Document} (sound : document.Sound)
    (maps : EvidenceMaps) (records : Option (List SliceRecord)) (now : Instant) :
    (document.attach maps records now).Sound where
  metadata := attach_metadata Metadata.sound_default
    (fun _ _ old => ⟨old.tools, old.extra⟩) sound.metadata
  components := attach_components (Component.attach_sound maps) Component.sound_of_algorithm
    sound.components
  services := attach_services (Others.none _) sound.services
  dependencies := attach_dependencies sound.dependencies
  annotations := attach_annotations (fun _ _ slice _ => annotation_canonical sound now slice)
    sound.annotations
  extra := sound.extra.erase "signature"

end Bom

end BomEvidence
