import BomEvidence.Proofs.Run.Faults
import BomEvidence.Proofs.Run.Refused
import BomEvidence.Proofs.Run.Unsliced

/-!
The annotations that a run leaves. They are kept unless the run was asked to annotate and loaded a
slice; then each loaded slice of a kind that is quoted has one, with the text of its file. Semantics
slices are loaded and not quoted, so that a run with no other slice leaves none.
-/

namespace BomEvidence

/-! ### The slices that are quoted -/

def RunConfig.slicePath? (config : RunConfig) : SliceKind → Option String
  | .usages => config.usagesPath
  | .dataFlow => config.dataFlowPath
  | .reachables => config.reachablesPath
  | .semantics => config.semanticsPath

/-- The kinds of slices whose texts are kept in a document, in their order there. -/
def SliceKind.quoted : List SliceKind := [.usages, .dataFlow, .reachables]

theorem SliceKind.text_of_load {Slice : Type} {kind : SliceKind} {read : Json.Tree.Reader Slice}
    {path : Option String} {limits : SliceLimits} {files : FileTree} {slice : LoadedSlice Slice}
    (loaded : (kind.load read path limits files).slice? = some slice) :
    path = some slice.path ∧ files.readText slice.path = .ok slice.raw := by
  cases path with
  | none => cases loaded
  | some own =>
      obtain ⟨_, _, _, _, text, _, same⟩ := slice_of_load loaded
      rw [same]
      exact ⟨rfl, text⟩

namespace RunSlices

def record? (slices : RunSlices) (kind : SliceKind) : Option SliceRecord :=
  match kind with
  | .usages => record slices.usages.slice?
  | .dataFlow => record (loaded? slices.dataFlow)
  | .reachables => record (loaded? slices.reachables)
  | .semantics => record (loaded? slices.semantics)
where
  record {Slice : Type} (slice : Option (LoadedSlice Slice)) : Option SliceRecord :=
    slice.map fun slice => ⟨kind, slice.path, slice.raw⟩

theorem records_eq (slices : RunSlices) :
    slices.records = SliceKind.quoted.filterMap slices.record? := by
  unfold records SliceKind.quoted
  simp only [List.filterMap_cons, List.filterMap_nil, record?, record?.record]
  cases slices.usages.slice? <;> cases loaded? slices.dataFlow <;>
    cases loaded? slices.reachables <;> rfl

theorem status_eq_loaded_iff (slices : RunSlices) (kind : SliceKind) :
    slices.status? kind = some .loaded ↔ (slices.record? kind).isSome = true := by
  have optional {Slice : Type} (outcome : Option (LoadOutcome Slice)) :
      outcome.map LoadOutcome.status = some .loaded ↔ (loaded? outcome).isSome = true := by
    cases outcome with
    | none => simp [loaded?]
    | some outcome => simp [loaded?, LoadOutcome.status_eq_loaded]
  cases kind with
  | usages => simp [status?, record?, record?.record, LoadOutcome.status_eq_loaded]
  | dataFlow => simpa [status?, record?, record?.record] using optional slices.dataFlow
  | reachables => simpa [status?, record?, record?.record] using optional slices.reachables
  | semantics => simpa [status?, record?, record?.record] using optional slices.semantics

theorem mem_outcomes_iff (slices : RunSlices) (kind : SliceKind) :
    (kind, LoadStatus.loaded) ∈ slices.outcomes ↔ (slices.record? kind).isSome = true := by
  have among : (kind, LoadStatus.loaded) ∈ slices.outcomes ↔
      (kind, LoadStatus.loaded) ∈ slices.outcomes.filter fun outcome => outcome.1 = kind := by simp
  rw [among, outcomes_of_kind, ← status_eq_loaded_iff]
  cases slices.status? kind <;> simp [eq_comm]

theorem text_of_asked {Slice : Type} {asked : Bool} {kind : SliceKind}
    {read : Json.Tree.Reader Slice} {path : Option String} {limits : SliceLimits} {files : FileTree}
    {slice : LoadedSlice Slice}
    (loaded : loaded? (if asked then some (kind.load read path limits files) else none) =
      some slice) :
    path = some slice.path ∧ files.readText slice.path = .ok slice.raw := by
  cases asked with
  | false => cases loaded
  | true => exact SliceKind.text_of_load loaded

theorem text_of_record {config : RunConfig} {hasComponents : Bool} {files : FileTree}
    {kind : SliceKind} {held : SliceRecord}
    (among : (load config hasComponents files).record? kind = some held) :
    config.slicePath? kind = some held.path ∧ files.readText held.path = .ok held.text := by
  cases kind with
  | usages =>
      obtain ⟨slice, loaded, rfl⟩ := Option.map_eq_some_iff.1 among
      exact SliceKind.text_of_load loaded
  | dataFlow =>
      obtain ⟨slice, loaded, rfl⟩ := Option.map_eq_some_iff.1 among
      exact text_of_asked loaded
  | reachables =>
      obtain ⟨slice, loaded, rfl⟩ := Option.map_eq_some_iff.1 among
      exact text_of_asked loaded
  | semantics =>
      obtain ⟨slice, loaded, rfl⟩ := Option.map_eq_some_iff.1 among
      exact text_of_asked loaded

end RunSlices

def RunReport.quoted (reported : RunReport) : List SliceKind :=
  SliceKind.quoted.filter fun kind => (kind, .loaded) ∈ reported.slices

theorem forall₂_of_picked {Item Other : Type} {keeps : Item → Bool} {pick : Item → Option Other}
    {Relates : Item → Other → Prop} (picked : ∀ item, keeps item = (pick item).isSome)
    (related : ∀ item other, pick item = some other → Relates item other) (items : List Item) :
    List.Forall₂ Relates (items.filter keeps) (items.filterMap pick) := by
  induction items with
  | nil => exact .nil
  | cons item items ih =>
      have kept := picked item
      cases found : pick item with
      | none =>
          rw [found, Option.isSome_none] at kept
          rwa [List.filter_cons_of_neg (by simp [kept]), List.filterMap_cons_none found]
      | some other =>
          rw [found, Option.isSome_some] at kept
          rw [List.filter_cons_of_pos kept, List.filterMap_cons_some found]
          exact .cons (related item other found) ih

def Bom.Document.IsAnnotated (document : Document) : Prop := document.annotations.getD [] ≠ []

namespace Run

/-- An annotation with the text of the file of a slice, on the document with its serial number. -/
def Quotes (config : RunConfig) (files : FileTree) (document : Bom.Document) (kind : SliceKind)
    (entry : Json) : Prop :=
  ∃ path text, config.slicePath? kind = some path ∧ files.readText path = .ok text ∧
    entry.member? "text" = some (.text text) ∧
    entry.member? "subjects" = some (.ofList .text document.serialNumber.toList)

def Replaces (config : RunConfig) (reported : RunReport) : Prop :=
  config.annotate = true ∧ ∃ attempt ∈ reported.slices, attempt.2 = .loaded

/-- What becomes of the annotations of a document. They are lost where only a semantics slice was
loaded. -/
structure Annotates (config : RunConfig) (files : FileTree) (document written : Bom.Document)
    (reported : RunReport) : Prop where
  kept : ¬Replaces config reported → written.annotations = document.annotations
  replaced : Replaces config reported → ∃ annotations, written.annotations = some annotations ∧
    List.Forall₂ (Quotes config files document) reported.quoted annotations
  lost_iff : document.IsAnnotated → (¬written.IsAnnotated ↔
    config.annotate = true ∧ ∀ kind, (kind, .loaded) ∈ reported.slices ↔ kind = .semantics)

variable {config : RunConfig} {given : Collaborators} {now : Instant} {files : FileTree}

theorem read_text_of_opened {path text : String}
    (read : (opened config given files).readText path = .ok text) :
    files.readText path = .ok text := by
  rcases opened_eq config given files with same | ⟨place, found, _, _, _, _, put⟩
  · rwa [same] at read
  · have noDirectory : FileEntry.database ∅ ≠ .directory := nofun
    have noText : FileEntry.database ∅ ≠ .text text := nofun
    rw [put] at read
    exact FileTree.read_text_of_put noDirectory noText read

theorem records_quoted {document : Bom.Document} :
    List.Forall₂ (Quotes config files document) (report config given files document).quoted
      ((slices config given files document).records.map (document.annotation now)) := by
  rw [RunSlices.records_eq, List.map_filterMap]
  apply forall₂_of_picked
  · intro kind
    rw [Option.isSome_map, Bool.eq_iff_iff, decide_eq_true_eq]
    exact RunSlices.mem_outcomes_iff (slices config given files document) kind
  · intro kind entry held
    obtain ⟨slice, among, rfl⟩ := Option.map_eq_some_iff.1 held
    obtain ⟨path, text⟩ := RunSlices.text_of_record among
    exact ⟨slice.path, slice.text, path, read_text_of_opened text, rfl, rfl⟩

/-- Where none of the loaded slices is quoted, it is the one that never is. -/
theorem quoted_eq_nil_iff {reported : RunReport}
    (loaded : ∃ attempt ∈ reported.slices, attempt.2 = .loaded) :
    reported.quoted = [] ↔ ∀ kind, (kind, .loaded) ∈ reported.slices ↔ kind = .semantics := by
  unfold RunReport.quoted
  rw [List.filter_eq_nil_iff]
  constructor
  · intro unquoted
    have others : ∀ kind, (kind, LoadStatus.loaded) ∈ reported.slices → kind = .semantics := by
      intro kind among
      cases kind with
      | semantics => rfl
      | _ => exact absurd (decide_eq_true among) (unquoted _ (by decide))
    obtain ⟨⟨kind, _⟩, among, rfl⟩ := loaded
    obtain rfl := others kind among
    intro asked
    exact ⟨others asked, fun same => by rwa [same]⟩
  · intro alone kind member
    rw [decide_eq_true_eq, alone]
    rintro rfl
    exact absurd member (by decide)

section Annotated

variable {document : Bom.Document}

theorem replaces_iff : Replaces config (report config given files document) ↔
    (config.annotate && (slices config given files document).anyLoaded) = true := by
  rw [Bool.and_eq_true, RunSlices.any_loaded_iff]
  rfl

theorem annotations_kept (idle : ¬Replaces config (report config given files document)) :
    (evidenced config given files document now).annotations = document.annotations := by
  have noRecords : records config given files document = none := if_neg (replaces_iff.not.1 idle)
  unfold evidenced
  rw [noRecords]
  rfl

theorem annotations_replaced (replaces : Replaces config (report config given files document)) :
    (evidenced config given files document now).annotations =
      some ((slices config given files document).records.map (document.annotation now)) := by
  have allRecords : records config given files document =
      some (slices config given files document).records := if_pos (replaces_iff.1 replaces)
  unfold evidenced
  rw [allRecords]
  rfl

theorem annotates_of_read : Annotates config files document
    (evidenced config given files document now) (report config given files document) := by
  have replaced (replaces : Replaces config (report config given files document)) :
      ∃ annotations, (evidenced config given files document now).annotations = some annotations ∧
        List.Forall₂ (Quotes config files document) (report config given files document).quoted
          annotations := ⟨_, annotations_replaced replaces, records_quoted⟩
  refine ⟨annotations_kept, replaced, ?_⟩
  intro annotated
  by_cases replaces : Replaces config (report config given files document)
  · obtain ⟨annotations, same, quotes⟩ := replaced replaces
    rw [Bom.Document.IsAnnotated, same, Option.getD_some, not_not, ← quoted_eq_nil_iff replaces.2,
      and_iff_right replaces.1]
    constructor
    · rintro rfl
      exact List.forall₂_nil_right_iff.1 quotes
    · intro nothing
      rw [nothing] at quotes
      exact List.forall₂_nil_left_iff.1 quotes
  · rw [Bom.Document.IsAnnotated, annotations_kept replaces]
    refine iff_of_false (not_not.2 annotated) ?_
    rintro ⟨annotate, alone⟩
    exact replaces ⟨annotate, _, (alone .semantics).2 rfl, rfl⟩

end Annotated

/-- A run that succeeds keeps the annotations of its document or replaces them by one for each
loaded slice that is quoted. -/
theorem annotations_of_execute {reported : RunReport}
    (succeeds : (execute config given now files).outcome = .ok reported) :
    ∃ (document written : Bom.Document) (processed : Json),
      readDocument config files = .ok document ∧
      given.postProcessor.process written.toJson = .ok processed ∧
      (execute config given now files).files.readText config.outputPath = .ok processed.pretty ∧
      Annotates config files document written reported := by
  have done : (execute config given now files).outcome.isOk = true := by
    rw [succeeds]
    rfl
  obtain ⟨document, read, processed, made, text⟩ := execute_is_ok done
  rw [report_of_execute read succeeds]
  exact ⟨document, _, processed, read, made, text, annotates_of_read⟩

theorem annotations_of_sample :
    ∃ reported, (execute sampleConfig sampleCollaborators ⟨0⟩ sampleFiles).outcome = .ok reported ∧
      ∃ (document written : Bom.Document) (processed : Json),
        readDocument sampleConfig sampleFiles = .ok document ∧
        sampleCollaborators.postProcessor.process written.toJson = .ok processed ∧
        (execute sampleConfig sampleCollaborators ⟨0⟩ sampleFiles).files.readText
          sampleConfig.outputPath = .ok processed.pretty ∧
        Annotates sampleConfig sampleFiles document written reported := by
  have done : (execute sampleConfig sampleCollaborators ⟨0⟩ sampleFiles).outcome.toOption.isSome =
      true := by decide +kernel
  obtain ⟨reported, held⟩ := Option.isSome_iff_exists.1 done
  have succeeds := ok_of_to_option held
  exact ⟨reported, succeeds, annotations_of_execute succeeds⟩

def sampleReviewedDocument : Bom.Document :=
  { (default : Bom.Document) with
    specVersion := some "1.5"
    components := [{ (default : Bom.Component) with purl := some "pkg:swift/vapor@4.0" }]
    annotations := some [.object [("text", .text "reviewed")]] }

def sampleSemanticsConfig : RunConfig :=
  { sampleConfig with
    language := .swift
    usagesPath := none
    semanticsPath := some "semantics.json" }

def sampleReviewedFiles : FileTree :=
  (FileTree.empty.add "bom.json" (.text sampleReviewedDocument.toJson.compact)).add "semantics.json"
    (.text (Json.object []).compact)

theorem semantics_run_drops_annotations :
    ¬∀ (config : RunConfig) (given : Collaborators) (now : Instant) (files : FileTree)
      (before after : Bom.Document), Turns config given now files before after →
      given.postProcessor = .identity → before.IsAnnotated → after.IsAnnotated := by
  intro always
  let after := evidenced sampleSemanticsConfig .none sampleReviewedFiles sampleReviewedDocument ⟨0⟩
  have read : readDocument sampleSemanticsConfig sampleReviewedFiles = .ok sampleReviewedDocument :=
    ok_of_to_option (by decide +kernel)
  have reread : after.toJson.Reread := by
    apply Json.reread_of_plain
    decide +kernel
  have inPlace : InPlace sampleSemanticsConfig .none := ⟨rfl, Or.inr rfl, rfl⟩
  have turns : Turns sampleSemanticsConfig .none ⟨0⟩ sampleReviewedFiles sampleReviewedDocument
      after := turns_in_place inPlace read reread
  have annotated : sampleReviewedDocument.IsAnnotated := List.cons_ne_nil _ _
  have lost : after.annotations.getD [] = [] := by decide +kernel
  exact always _ _ _ _ _ _ turns rfl annotated lost

end Run

end BomEvidence
