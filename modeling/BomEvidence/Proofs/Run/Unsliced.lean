import BomEvidence.Proofs.Bom.Settled
import BomEvidence.Proofs.Run.Account
import BomEvidence.Proofs.Run.Turns

/-!
Runs without a slice. Where none is loaded, the collector knows the places of the document and
nothing else, and the run attaches them to the document that they come from.
-/

namespace BomEvidence

theorem ok_of_to_option {Error Value : Type} {result : Except Error Value} {value : Value}
    (accepted : result.toOption = some value) : result = .ok value := by
  cases result with
  | error _ => cases accepted
  | ok held => exact congrArg Except.ok (Option.some.inj accepted)

theorem LoadOutcome.status_eq_loaded {Slice : Type} {outcome : LoadOutcome Slice} :
    outcome.status = .loaded ↔ outcome.slice?.isSome = true := by
  cases outcome <;> simp [status, slice?]

namespace RunSlices

theorem status_of_loaded {Slice : Type} {kind : SliceKind} {outcome : Option (LoadOutcome Slice)} :
    (∃ attempt ∈ (outcome.map fun outcome => (kind, outcome.status)).toList, attempt.2 = .loaded) ↔
      (loaded? outcome).isSome = true := by
  cases outcome with
  | none => simp [loaded?]
  | some outcome => simp [loaded?, LoadOutcome.status_eq_loaded]

theorem any_loaded_iff {slices : RunSlices} :
    slices.anyLoaded = true ↔ ∃ attempt ∈ slices.outcomes, attempt.2 = .loaded := by
  unfold anyLoaded outcomes
  simp only [List.mem_append, or_and_right, exists_or, status_of_loaded, List.mem_singleton,
    exists_eq_left, LoadOutcome.status_eq_loaded, Bool.or_eq_true]
  rfl

theorem intakes_of_none_loaded {slices : RunSlices} (unloaded : slices.anyLoaded = false)
    (components : List Bom.Component) : slices.intakes components = [] := by
  unfold anyLoaded LoadOutcome.isLoaded at unloaded
  simp only [Bool.or_eq_false_iff, Option.isSome_eq_false_iff, Option.isNone_iff_eq_none]
    at unloaded
  obtain ⟨⟨⟨reachables, usages⟩, semantics⟩, dataFlow⟩ := unloaded
  unfold intakes
  rw [reachables, usages, semantics, dataFlow]
  rfl

end RunSlices

namespace Run

section Parts

variable (config : RunConfig) (given : Collaborators) (files : FileTree) (document : Bom.Document)

theorem seeded_repeats :
    (seeded config given files document).maps.Repeats document.components := by
  have kept {Kept : Type} (read : EvidenceMaps → Kept)
      (keeps : ∀ maps purl places, read (maps.addLocations purl places) = read maps)
      (entries : List (String × List String)) :
      read ((∅ : EvidenceMaps).addAllLocations entries) = read ∅ :=
    foldl_keeps read (fun maps entry _ => keeps maps entry.1 entry.2) ∅
  constructor
  · intro purl place
    have nothing : ¬(starter config given files document).maps.HasPlace purl place :=
      TextMap.not_relates_emptyset purl place
    unfold seeded
    rw [Collector.has_place_add_locations, or_iff_right nothing, seed, Seed.of_components_places]
  · exact kept EvidenceMaps.callstacks (fun _ _ _ => rfl) _
  · exact kept EvidenceMaps.providers (fun _ _ _ => rfl) _
  · exact kept EvidenceMaps.algorithms (fun _ _ _ => rfl) _
  · exact kept EvidenceMaps.services (fun _ _ _ => rfl) _

variable {config given files document} in
theorem collected_of_none_loaded (unloaded : (slices config given files document).anyLoaded = false) :
    collected config given files document = seeded config given files document := by
  rw [collected_eq, intakes, RunSlices.intakes_of_none_loaded unloaded]
  rfl

end Parts

variable {config : RunConfig} {given : Collaborators} {now : Instant} {files : FileTree}

/-- A run without a slice reports that there is none. The document that it wrote keeps everything
but its version, its time, the signatures and the occurrences. A package has the places that the
document tells of it, and the occurrences are kept as well exactly where all of them are settled. -/
theorem unsliced_run_keeps_settled {reported : RunReport}
    (succeeds : (execute config given now files).outcome = .ok reported)
    (unloaded : ∀ attempt ∈ reported.slices, attempt.2 ≠ .loaded) :
    ∃ (document written : Bom.Document) (processed : Json),
      readDocument config files = .ok document ∧
      given.postProcessor.process written.toJson = .ok processed ∧
      (execute config given now files).files.readText config.outputPath = .ok processed.pretty ∧
      reported.status = .noSlices ∧
      written.unplaced = document.unplaced ∧
      List.Forall₂ (Bom.Component.HasPlaces (Bom.Places document.components)) document.components
        written.components ∧
      (written.unstamped = document.unstamped ↔
        ∀ component ∈ document.components, component.Settled document.components) := by
  have done : (execute config given now files).outcome.isOk = true := by
    rw [succeeds]
    rfl
  obtain ⟨document, read, processed, made, text⟩ := execute_is_ok done
  rw [report_of_execute read succeeds] at unloaded ⊢
  have noneLoaded : (slices config given files document).anyLoaded = false := by
    rw [Bool.eq_false_iff, ne_eq, RunSlices.any_loaded_iff]
    rintro ⟨attempt, among, loaded⟩
    exact unloaded attempt among loaded
  have repeated : (collected config given files document).maps.Repeats document.components := by
    rw [collected_of_none_loaded noneLoaded]
    exact seeded_repeats config given files document
  have written : evidenced config given files document now =
      document.attach (collected config given files document).maps none now := by
    unfold evidenced records
    rw [noneLoaded, Bool.and_false]
    rfl
  refine ⟨document, evidenced config given files document now, processed, read, made, text, ?_⟩
  rw [written]
  refine ⟨?_, Bom.Document.unplaced_attach repeated now, ?_,
    Bom.Document.unstamped_attach_iff repeated now⟩
  · unfold report statusOf
    rw [noneLoaded]
    rfl
  · rw [Bom.Document.attach_of_repeats repeated, List.forall₂_map_right_iff, List.forall₂_same]
    intro component _
    exact Bom.Component.attach_has_places (fun _ _ => repeated.mem_places) component

theorem unloaded_of_missing (missing :
    (execute config given now files).outcome.toOption.map RunReport.slices =
      some [(.usages, .missing)]) :
    ∃ reported, (execute config given now files).outcome = .ok reported ∧
      ∀ attempt ∈ reported.slices, attempt.2 ≠ .loaded := by
  obtain ⟨reported, held, attempts⟩ := Option.map_eq_some_iff.1 missing
  refine ⟨reported, ok_of_to_option held, ?_⟩
  rw [attempts]
  decide

def sampleUnslicedConfig : RunConfig := { sampleConfig with usagesPath := none }

theorem unsliced_sample_keeps_settled :
    ∃ reported,
      ((execute sampleUnslicedConfig sampleCollaborators ⟨0⟩ sampleFiles).outcome = .ok reported ∧
        ∀ attempt ∈ reported.slices, attempt.2 ≠ .loaded) ∧
      ∃ (document written : Bom.Document) (processed : Json),
        readDocument sampleUnslicedConfig sampleFiles = .ok document ∧
        sampleCollaborators.postProcessor.process written.toJson = .ok processed ∧
        (execute sampleUnslicedConfig sampleCollaborators ⟨0⟩ sampleFiles).files.readText
          sampleUnslicedConfig.outputPath = .ok processed.pretty ∧
        reported.status = .noSlices ∧
        written.unplaced = document.unplaced ∧
        List.Forall₂ (Bom.Component.HasPlaces (Bom.Places document.components)) document.components
          written.components ∧
        (written.unstamped = document.unstamped ↔
          ∀ component ∈ document.components, component.Settled document.components) := by
  have missing : (execute sampleUnslicedConfig sampleCollaborators ⟨0⟩
      sampleFiles).outcome.toOption.map RunReport.slices = some [(.usages, .missing)] := by
    decide +kernel
  obtain ⟨reported, succeeds, unloaded⟩ := unloaded_of_missing missing
  exact ⟨reported, ⟨succeeds, unloaded⟩, unsliced_run_keeps_settled succeeds unloaded⟩

def sampleMarkedDocument : Bom.Document :=
  { (default : Bom.Document) with
    specVersion := some "1.5"
    components := [{ (default : Bom.Component) with
      purl := some "pkg:npm/left-pad@1.3.0"
      evidence := some ⟨some [⟨"a.js#1", .insert ∅ "line" (.ofWord 7)⟩], none, ∅⟩ }] }

def sampleMarkedFiles : FileTree :=
  FileTree.empty.add "bom.json" (.text sampleMarkedDocument.toJson.compact)

theorem unsliced_run_drops_member :
    ¬∀ (config : RunConfig) (given : Collaborators) (now : Instant) (files : FileTree)
      (before after : Bom.Document) (reported : RunReport),
      Turns config given now files before after → given.postProcessor = .identity →
      (execute config given now files).outcome = .ok reported →
      (∀ attempt ∈ reported.slices, attempt.2 ≠ .loaded) →
      after.unstamped = before.unstamped := by
  intro always
  let after :=
    evidenced sampleUnslicedConfig .none sampleMarkedFiles sampleMarkedDocument ⟨0⟩
  have read : readDocument sampleUnslicedConfig sampleMarkedFiles = .ok sampleMarkedDocument :=
    ok_of_to_option (by decide +kernel)
  have reread : after.toJson.Reread := by
    apply Json.reread_of_plain
    decide +kernel
  have inPlace : InPlace sampleUnslicedConfig .none := ⟨rfl, Or.inr rfl, rfl⟩
  have turns : Turns sampleUnslicedConfig .none ⟨0⟩ sampleMarkedFiles sampleMarkedDocument after :=
    turns_in_place inPlace read reread
  have missing : (execute sampleUnslicedConfig .none ⟨0⟩
      sampleMarkedFiles).outcome.toOption.map RunReport.slices = some [(.usages, .missing)] := by
    decide +kernel
  obtain ⟨reported, succeeds, unloaded⟩ := unloaded_of_missing missing
  have kept := always _ _ _ _ _ _ _ turns rfl succeeds unloaded
  have changed : after.unstamped ≠ sampleMarkedDocument.unstamped := by decide +kernel
  exact changed kept

end Run

end BomEvidence
