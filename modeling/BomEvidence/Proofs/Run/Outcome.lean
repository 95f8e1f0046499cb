import BomEvidence.Proofs.FileTree.Written
import BomEvidence.Run.Execute

/-!
The parts of a run, each by its own name, and what a run that succeeds has done: it read a
document, and its output file holds what the last step made of the document with evidence.
-/

namespace BomEvidence

namespace Run

section Parts

variable (config : RunConfig) (given : Collaborators) (files : FileTree) (document : Bom.Document)

def index : Option NamespaceIndex := (chooseIndex config given.index files).1

def opened : FileTree := (chooseIndex config given.index files).2

def detector : Option Detector := chooseDetector config given.detector (opened config given files)

def slices : RunSlices :=
  RunSlices.load config (!document.components.isEmpty) (opened config given files)

def seed : Seed := Seed.ofComponents config.language document.components

/-- The collector that knows nothing but where to ask. -/
def starter : Collector :=
  .new (.new config.language (seed config document).imports (index config given files))
    (detector config given files)

def collected : Collector :=
  collect ((starter config given files document).addLocations (seed config document).locations)
    document.components (slices config given files document)

def records : Option (List SliceRecord) :=
  if config.annotate && (slices config given files document).anyLoaded then
    some (slices config given files document).records
  else none

def evidenced (now : Instant) : Bom.Document :=
  document.attach (collected config given files document).maps (records config given files document)
    now

def report : RunReport where
  status := statusOf (slices config given files document)
    (document.attachSummary (collected config given files document).maps)
  summary := document.attachSummary (collected config given files document).maps
  maps := (collected config given files document).maps
  slices := (slices config given files document).outcomes
  queries := (collected config given files document).resolver.queries
  hits := (collected config given files document).resolver.cache.hits
  output := config.outputPath

end Parts

variable {config : RunConfig} {given : Collaborators} {now : Instant} {files : FileTree}

/-- What no slice of a kind changes, adding one or none of them does not change. -/
theorem add_slice_keeps {Slice Kept : Type} {add : Collector → Slice → Collector}
    (read : Collector → Kept)
    (keeps : ∀ collector slice, read (add collector slice) = read collector)
    (slice : Option (LoadedSlice Slice)) (collector : Collector) :
    read (addSlice add slice collector) = read collector := by
  cases slice with
  | none => rfl
  | some slice => exact keeps collector slice.data

def wrote (config : RunConfig) (given : Collaborators) (now : Instant) (files : FileTree)
    (document : Bom.Document) : Except RunFailure FileTree :=
  writeDocument config.outputPath given.postProcessor (evidenced config given files document now)
    (opened config given files)

theorem execute_of_unread {failure : RunFailure}
    (unread : readDocument config files = .error failure) :
    execute config given now files = ⟨.error failure, files, ∅⟩ := by
  unfold execute
  rw [unread]

/-- A run that read its document ends as it could write it. Where it could not, only the index was
opened. -/
theorem execute_of_read {document : Bom.Document}
    (read : readDocument config files = .ok document) :
    (execute config given now files).outcome =
        (wrote config given now files document).map (fun _ => report config given files document) ∧
      (execute config given now files).files =
        (wrote config given now files document).toOption.getD (opened config given files) := by
  unfold execute
  rw [read]
  unfold wrote evidenced records collected starter seed slices detector index opened
  dsimp only
  split <;> rename_i written <;> rw [written] <;> exact ⟨rfl, rfl⟩

theorem report_of_execute {document : Bom.Document} {done : RunReport}
    (read : readDocument config files = .ok document)
    (succeeds : (execute config given now files).outcome = .ok done) :
    done = report config given files document := by
  rw [(execute_of_read read).1] at succeeds
  cases result : wrote config given now files document with
  | error failure =>
      rw [result] at succeeds
      cases succeeds
  | ok changed =>
      rw [result] at succeeds
      exact (Except.ok.inj succeeds).symm

theorem execute_of_unwritten {document : Bom.Document} {failure : RunFailure}
    (read : readDocument config files = .ok document)
    (failed : wrote config given now files document = .error failure) :
    (execute config given now files).outcome = .error failure := by
  rw [(execute_of_read read).1, failed]
  rfl

theorem execute_of_written {document : Bom.Document} {changed : FileTree}
    (read : readDocument config files = .ok document)
    (saved : wrote config given now files document = .ok changed) :
    (execute config given now files).outcome.isOk = true ∧
      (execute config given now files).files = changed := by
  rw [(execute_of_read read).1, (execute_of_read read).2, saved]
  exact ⟨rfl, rfl⟩

theorem wrote_iff {document : Bom.Document} {changed : FileTree} :
    wrote config given now files document = .ok changed ↔ ∃ processed,
      given.postProcessor.process (evidenced config given files document now).toJson =
        .ok processed ∧
      (opened config given files).writeText config.outputPath processed.pretty = .ok changed := by
  unfold wrote writeDocument
  cases given.postProcessor.process (evidenced config given files document now).toJson with
  | error failure => simp
  | ok processed =>
      simp only [Except.ok.injEq, exists_eq_left']
      cases (opened config given files).writeText config.outputPath processed.pretty <;> simp

theorem written_of_execute (done : (execute config given now files).outcome.isOk = true) :
    ∃ document, readDocument config files = .ok document ∧
      wrote config given now files document = .ok (execute config given now files).files := by
  cases read : readDocument config files with
  | error failure =>
      rw [execute_of_unread read] at done
      cases done
  | ok document =>
      refine ⟨document, rfl, ?_⟩
      cases result : wrote config given now files document with
      | error failure =>
          rw [execute_of_unwritten read result] at done
          cases done
      | ok changed => rw [(execute_of_written read result).2]

theorem execute_is_ok (done : (execute config given now files).outcome.isOk = true) :
    ∃ document, readDocument config files = .ok document ∧ ∃ processed,
      given.postProcessor.process (evidenced config given files document now).toJson =
        .ok processed ∧
      (execute config given now files).files.readText config.outputPath = .ok processed.pretty := by
  obtain ⟨document, read, result⟩ := written_of_execute done
  obtain ⟨processed, made, saved⟩ := wrote_iff.1 result
  exact ⟨document, read, processed, made, FileTree.read_text_of_write_text saved⟩

end Run

end BomEvidence
