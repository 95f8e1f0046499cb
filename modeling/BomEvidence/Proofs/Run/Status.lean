import BomEvidence.Proofs.Run.Callstacks
import BomEvidence.Proofs.Run.Unsliced

/-!
The status of a run. A run with a slice has attached evidence where its slices show a place or a
call stack of a package that the document lists, or a service, but also where the document told a
place of a package before. Only of a document that tells no place does the status say what the
slices showed.
-/

namespace BomEvidence

theorem Bom.Places.lists {document : Document} {purl place : String}
    (told : Places document.components purl place) : document.Lists purl := by
  obtain ⟨component, member, isPackage, _⟩ := told
  exact ⟨component, member, isPackage⟩

namespace Run

section Parts

variable (config : RunConfig) (given : Collaborators) (files : FileTree) (document : Bom.Document)

/-- The slices of a run show evidence: a place or a call stack of a package that the document
lists, or a service. -/
inductive Shows : Prop where
  | place {purl place : String} (listed : document.Lists purl)
      (told : UsagePlaces (starter config given files document)
          (slices config given files document) purl place ∨
        SemanticsPlaces document.components (slices config given files document) purl place)
  | callstack {purl : String} {picked : List Frame} (listed : document.Lists purl)
      (picks : Picks (stacksOf config given files document purl) picked) (frames : picked ≠ [])
  | service {name : String} (named : name ∈ serviceNames config given files document)

def Knows : Prop := ∃ purl place, Bom.Places document.components purl place

theorem has_evidence_iff :
    (document.attachSummary (collected config given files document).maps).hasEvidence = true ↔
      Shows config given files document ∨ Knows document := by
  have services : 0 < (collected config given files document).maps.services.size ↔
      ∃ name, name ∈ serviceNames config given files document := by
    rw [services_of_collected, Finset.card_pos, List.toFinset_nonempty_iff, ne_eq,
      List.eq_nil_iff_forall_not_mem, not_forall_not]
  rw [Bom.Document.summary_has_evidence, services]
  simp only [collected_has_place, collected_stacks]
  constructor
  · rintro (⟨purl, listed, place, known | told⟩ | ⟨purl, listed, picked, picks, frames⟩ |
      ⟨name, named⟩)
    · exact Or.inr ⟨purl, place, known⟩
    · exact Or.inl (.place listed told)
    · exact Or.inl (.callstack listed picks frames)
    · exact Or.inl (.service named)
  · rintro (shown | ⟨purl, place, known⟩)
    · cases shown with
      | place listed told => exact Or.inl ⟨_, listed, _, Or.inr told⟩
      | callstack listed picks frames => exact Or.inr (Or.inl ⟨_, listed, _, picks, frames⟩)
      | service named => exact Or.inr (Or.inr ⟨_, named⟩)
    · exact Or.inl ⟨purl, Bom.Places.lists known, place, Or.inl known⟩

variable {config given files document} in
/-- Slices that add nothing to what the document tells show no more than what it knows. -/
theorem Shows.knows (shown : Shows config given files document)
    (locations : (collected config given files document).maps.locations =
      (seed config document).locations)
    (callstacks : (collected config given files document).maps.callstacks = ∅)
    (services : (collected config given files document).maps.services = ∅) : Knows document := by
  cases shown with
  | @place purl place listed told =>
      have held := (collected_has_place config given files document).2 (Or.inr told)
      rw [EvidenceMaps.HasPlace, locations, seed, Seed.of_components_places] at held
      exact ⟨purl, place, held⟩
  | @callstack purl picked listed picks frames =>
      have nothing : stacksOf config given files document purl = [] := by
        rw [← collected_stacks, EvidenceMaps.stacksOf, callstacks]
        rfl
      rw [nothing, ← pick_frames_iff] at picks
      cases picks
  | service named =>
      have counted := services_of_collected config given files document
      rw [services] at counted
      have nameless := Finset.card_eq_zero.1 counted.symm
      exact absurd (List.mem_toFinset.2 named) (by rw [nameless]; exact Finset.notMem_empty _)

end Parts

variable {config : RunConfig} {given : Collaborators} {now : Instant} {files : FileTree}

/-- A run with a slice has attached evidence where its slices show any or its document knew a place
before, and else it has not. Where the slices added nothing, the status is up to the document. -/
theorem status_of_sliced_run {reported : RunReport}
    (succeeds : (execute config given now files).outcome = .ok reported)
    (loaded : ∃ attempt ∈ reported.slices, attempt.2 = .loaded) :
    ∃ document, readDocument config files = .ok document ∧
      (reported.status = .attached ↔
        Shows config given files document ∨ Knows document) ∧
      (reported.status = .unresolved ↔
        ¬Shows config given files document ∧ ¬Knows document) ∧
      (reported.maps.locations = (seed config document).locations →
        reported.maps.callstacks = ∅ → reported.maps.services = ∅ →
          (reported.status = .unresolved ↔ ¬Knows document)) := by
  have done : (execute config given now files).outcome.isOk = true := by
    rw [succeeds]
    rfl
  obtain ⟨document, read, _⟩ := execute_is_ok done
  rw [report_of_execute read succeeds] at loaded ⊢
  have sliced : (slices config given files document).anyLoaded = true :=
    RunSlices.any_loaded_iff.2 loaded
  let summary := document.attachSummary (collected config given files document).maps
  have status : (report config given files document).status =
      if summary.hasEvidence then .attached else .unresolved := by
    unfold report statusOf
    rw [sliced]
    rfl
  have attached : (report config given files document).status = .attached ↔
      Shows config given files document ∨ Knows document := by
    rw [status, ← has_evidence_iff]
    by_cases evident : summary.hasEvidence = true
    · rw [if_pos evident]
      exact iff_of_true rfl evident
    · rw [if_neg evident]
      exact iff_of_false nofun evident
  have unresolved : (report config given files document).status = .unresolved ↔
      ¬(report config given files document).status = .attached := by
    rw [status]
    split <;> simp
  rw [attached, not_or] at unresolved
  refine ⟨document, read, attached, unresolved, fun locations callstacks services => ?_⟩
  rw [unresolved]
  exact ⟨And.right, fun unknown =>
    ⟨fun shown => unknown (shown.knows locations callstacks services), unknown⟩⟩

def sampleSilentFiles : FileTree :=
  (FileTree.empty.add "bom.json" (.text sampleDocument.toJson.compact)).add "usages.json"
    (.text (Json.object [("objectSlices", .array [])]).compact)

theorem silent_run_adds_nothing :
    ∃ reported, (execute sampleConfig .none ⟨0⟩ sampleSilentFiles).outcome = .ok reported ∧
      reported.status = .attached ∧ reported.slices = [(.usages, .loaded)] ∧
      reported.maps =
        { (∅ : EvidenceMaps) with locations := (seed sampleConfig sampleDocument).locations } := by
  have facts : (execute sampleConfig .none ⟨0⟩ sampleSilentFiles).outcome.toOption.map
      (fun reported => (reported.status, reported.slices, reported.maps)) =
        some (.attached, [(.usages, .loaded)],
          { (∅ : EvidenceMaps) with locations := (seed sampleConfig sampleDocument).locations }) := by
    decide +kernel
  obtain ⟨reported, held, same⟩ := Option.map_eq_some_iff.1 facts
  rw [Prod.mk.injEq, Prod.mk.injEq] at same
  exact ⟨reported, ok_of_to_option held, same⟩

theorem status_of_silent_run :
    ∃ reported,
      ((execute sampleConfig .none ⟨0⟩ sampleSilentFiles).outcome = .ok reported ∧
        ∃ attempt ∈ reported.slices, attempt.2 = .loaded) ∧
      ∃ document, readDocument sampleConfig sampleSilentFiles = .ok document ∧
        (reported.status = .attached ↔
          Shows sampleConfig .none sampleSilentFiles document ∨ Knows document) ∧
        (reported.status = .unresolved ↔
          ¬Shows sampleConfig .none sampleSilentFiles document ∧ ¬Knows document) ∧
        (reported.maps.locations = (seed sampleConfig document).locations →
          reported.maps.callstacks = ∅ → reported.maps.services = ∅ →
            (reported.status = .unresolved ↔ ¬Knows document)) := by
  obtain ⟨reported, succeeds, _, slices, _⟩ := silent_run_adds_nothing
  have loaded : ∃ attempt ∈ reported.slices, attempt.2 = .loaded := by
    rw [slices]
    decide
  exact ⟨reported, ⟨succeeds, loaded⟩, status_of_sliced_run succeeds loaded⟩

theorem silent_run_is_attached :
    ¬∀ (config : RunConfig) (given : Collaborators) (now : Instant) (files : FileTree)
      (document : Bom.Document) (reported : RunReport),
      readDocument config files = .ok document →
      (execute config given now files).outcome = .ok reported →
      (∃ attempt ∈ reported.slices, attempt.2 = .loaded) →
      reported.maps.locations = (seed config document).locations →
      reported.maps.callstacks = ∅ → reported.maps.services = ∅ →
      reported.status = .unresolved := by
  intro always
  have read : readDocument sampleConfig sampleSilentFiles = .ok sampleDocument := read_sample rfl
  obtain ⟨reported, succeeds, attached, slices, maps⟩ := silent_run_adds_nothing
  have loaded : ∃ attempt ∈ reported.slices, attempt.2 = .loaded := by
    rw [slices]
    decide
  have unresolved := always _ _ _ _ _ _ read succeeds loaded
  rw [maps, attached] at unresolved
  cases unresolved rfl rfl rfl

end Run

end BomEvidence
