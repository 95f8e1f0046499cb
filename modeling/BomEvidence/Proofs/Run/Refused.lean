import BomEvidence.Proofs.FileTree.Kept
import BomEvidence.Proofs.Run.Turns

/-!
Runs that fail. A run fails by the document that it reads or by the one that it cannot write;
slices, indexes, catalogs and detectors never stop it. A run that fails leaves the files as they
are, up to a database that it made, and one that succeeds changes its output file besides.
-/

namespace BomEvidence

/-- The version of a document is 1.5 or a later one. -/
def Bom.Document.CanHoldEvidence (document : Document) : Prop :=
  ∃ version, document.version? = some version ∧
    (1 < version.major ∨ version.major = 1 ∧ 5 ≤ version.minor)

theorem Bom.Document.require_version_iff {document : Document} :
    (∃ version, document.requireVersion = .ok version) ↔ document.CanHoldEvidence := by
  have late : ∀ version : SpecVersion, version.atLeast .withEvidence = true ↔
      1 < version.major ∨ version.major = 1 ∧ 5 ≤ version.minor := by
    intro version
    unfold SpecVersion.atLeast
    rw [Bool.or_eq_true, Bool.and_eq_true, decide_eq_true_eq, decide_eq_true_eq, decide_eq_true_eq]
    exact or_congr Iff.rfl (and_congr eq_comm Iff.rfl)
  unfold requireVersion CanHoldEvidence
  cases document.version? with
  | none => simp
  | some version =>
      simp only [← late, Option.some.injEq, exists_eq_left']
      cases version.atLeast .withEvidence <;> simp

namespace Run

/-- What makes a run fail: its input is no text, no document or one of an old version, its last
step fails, or its output file cannot be written. -/
inductive Refused (config : RunConfig) (given : Collaborators) (now : Instant)
    (files : FileTree) : Prop where
  | unreadable (failure : PathFailure) (unread : files.readText config.input = .error failure)
  | unparsed (source : String) (failure : RunFailure)
      (text : files.readText config.input = .ok source)
      (rejected : Bom.Document.parse config.input source = .error failure)
  | unsupported (source : String) (document : Bom.Document)
      (text : files.readText config.input = .ok source)
      (parsed : Bom.Document.parse config.input source = .ok document)
      (early : ¬document.CanHoldEvidence)
  | unprocessed (document : Bom.Document) (failure : Failure)
      (read : readDocument config files = .ok document)
      (refused : given.postProcessor.process (evidenced config given files document now).toJson =
        .error failure)
  | unwritable (refuses : (opened config given files).Refuses config.outputPath)

/-- An empty database was made where nothing or an empty file stood, as no index was given. -/
structure MadeDatabase (config : RunConfig) (given : Collaborators) (files changed : FileTree)
    (key : String) : Prop where
  noIndex : given.index = none
  configured : config.databasePath ≠ ""
  leads : files.LeadsTo config.databasePath key
  free : files.entries.get? key = none ∨ files.entries.get? key = some (.text "")
  made : changed.entries.get? key = some (.database ∅)

section Refused

variable {config : RunConfig} {given : Collaborators} {now : Instant} {files : FileTree}

theorem Refused.of_unread {failure : RunFailure}
    (unread : readDocument config files = .error failure) : Refused config given now files := by
  cases text : files.readText config.input with
  | error cause => exact .unreadable cause text
  | ok source =>
      cases parsed : Bom.Document.parse config.input source with
      | error cause => exact .unparsed source cause text parsed
      | ok document =>
          apply Refused.unsupported source document text parsed
          intro supported
          obtain ⟨version, required⟩ := Bom.Document.require_version_iff.2 supported
          rw [read_document_iff.2 ⟨source, version, text, parsed, required⟩] at unread
          cases unread

theorem Refused.of_unwritten {document : Bom.Document} {failure : RunFailure}
    (read : readDocument config files = .ok document)
    (unwritten : wrote config given now files document = .error failure) :
    Refused config given now files := by
  cases made : given.postProcessor.process (evidenced config given files document now).toJson with
  | error cause => exact .unprocessed document cause read made
  | ok processed =>
      cases saved : (opened config given files).writeText config.outputPath processed.pretty with
      | error cause => exact .unwritable (FileTree.refuses_iff.2 ⟨cause, saved⟩)
      | ok changed =>
          rw [wrote_iff.2 ⟨processed, made, saved⟩] at unwritten
          cases unwritten

theorem not_refused_of_is_ok (done : (execute config given now files).outcome.isOk = true) :
    ¬Refused config given now files := by
  obtain ⟨document, read, result⟩ := written_of_execute done
  obtain ⟨processed, made, saved⟩ := wrote_iff.1 result
  obtain ⟨source, version, text, parsed, required⟩ := read_document_iff.1 read
  intro refused
  cases refused with
  | unreadable failure unread => exact nomatch unread.symm.trans text
  | unparsed other failure otherText rejected =>
      have same : source = other := Except.ok.inj (text.symm.trans otherText)
      subst same
      exact nomatch rejected.symm.trans parsed
  | unsupported other otherDocument otherText otherParsed early =>
      have same : source = other := Except.ok.inj (text.symm.trans otherText)
      subst same
      have same : document = otherDocument := Except.ok.inj (parsed.symm.trans otherParsed)
      subst same
      exact early (Bom.Document.require_version_iff.1 ⟨version, required⟩)
  | unprocessed other failure otherRead refused =>
      have same : document = other := Except.ok.inj (read.symm.trans otherRead)
      subst same
      exact nomatch refused.symm.trans made
  | unwritable refuses =>
      obtain ⟨failure, refused⟩ := refuses processed.pretty
      exact nomatch refused.symm.trans saved

theorem execute_is_error_iff :
    (∃ failure, (execute config given now files).outcome = .error failure) ↔
      Refused config given now files := by
  constructor
  · intro failed
    obtain ⟨failure, failed⟩ := failed
    cases read : readDocument config files with
    | error cause => exact .of_unread read
    | ok document =>
        cases result : wrote config given now files document with
        | error cause => exact .of_unwritten read result
        | ok changed =>
            have done := (execute_of_written read result).1
            rw [failed] at done
            cases done
  · intro refused
    cases outcome : (execute config given now files).outcome with
    | error failure => exact ⟨failure, rfl⟩
    | ok done =>
        have isOk : (execute config given now files).outcome.isOk = true := by
          rw [outcome]
          rfl
        exact absurd refused (not_refused_of_is_ok isOk)

/-! ### The files after a run -/

theorem opened_eq (config : RunConfig) (given : Collaborators) (files : FileTree) :
    opened config given files = files ∨
      ∃ place found, given.index = none ∧ config.databasePath ≠ "" ∧
        files.locate config.databasePath = .ok (place, found) ∧
        (found = none ∨ found = some (.text "")) ∧
        opened config given files = files.put place (.database ∅) := by
  unfold opened chooseIndex
  cases given.index with
  | some index => exact Or.inl rfl
  | none =>
      dsimp only
      split
      · exact Or.inl rfl
      · rename_i configured
        cases result : files.openDatabase config.databasePath with
        | error failure => exact Or.inl rfl
        | ok made =>
            obtain ⟨catalog, changed⟩ := made
            rcases FileTree.put_of_open_database result with same | ⟨place, found, rest⟩
            · exact Or.inl same
            · exact Or.inr ⟨place, found, rfl, configured, rest⟩

theorem opened_entries (config : RunConfig) (given : Collaborators) (files : FileTree)
    (key : String) : (opened config given files).entries.get? key = files.entries.get? key ∨
      MadeDatabase config given files (opened config given files) key := by
  rcases opened_eq config given files with
    same | ⟨place, found, noIndex, configured, located, free, put⟩
  · left
    rw [same]
  · rw [put]
    by_cases here : key = place.key
    · right
      have noDirectory : found ≠ some .directory := by
        rcases free with nothing | empty <;> simp_all
      have held := FileTree.entries_of_locate located noDirectory
      refine ⟨noIndex, configured, ⟨place, found, located, here.symm⟩, ?_, ?_⟩
      · rw [here, held]
        exact free
      · rw [FileTree.entries_put, if_pos here]
    · left
      rw [FileTree.entries_put, if_neg here]

theorem leads_to_of_opened {path key : String}
    (leads : (opened config given files).LeadsTo path key) : files.LeadsTo path key := by
  rcases opened_eq config given files with same | ⟨place, found, _, _, _, _, put⟩
  · rwa [same] at leads
  · have noDirectory : FileEntry.database ∅ ≠ .directory := nofun
    rw [put] at leads
    exact leads.of_put noDirectory

theorem files_of_error {failure : RunFailure}
    (failed : (execute config given now files).outcome = .error failure) :
    (execute config given now files).files = files ∨
      (execute config given now files).files = opened config given files := by
  cases read : readDocument config files with
  | error cause =>
      left
      rw [execute_of_unread read]
  | ok document =>
      right
      cases result : wrote config given now files document with
      | error cause =>
          rw [(execute_of_read read).2, result]
          rfl
      | ok changed =>
          have done := (execute_of_written read result).1
          rw [failed] at done
          cases done

/-- Only the document that is read and the one that is written can fail a run. A run that fails
made a database at most, and nothing before its document was read; one that succeeds changed its
output file besides. -/
theorem documents_alone_fail_run (config : RunConfig) (given : Collaborators) (now : Instant)
    (files : FileTree) :
    let result := execute config given now files
    ((∃ failure, result.outcome = .error failure) ↔ Refused config given now files) ∧
    ((∃ failure, readDocument config files = .error failure) → result.files = files) ∧
    (∀ failure, result.outcome = .error failure → ∀ key,
      result.files.entries.get? key = files.entries.get? key ∨
        MadeDatabase config given files result.files key) ∧
    ∀ done, result.outcome = .ok done → ∀ key,
      result.files.entries.get? key = files.entries.get? key ∨
        MadeDatabase config given files result.files key ∨
        files.LeadsTo config.outputPath key := by
  refine ⟨execute_is_error_iff, ?_, ?_, ?_⟩
  · intro unread
    obtain ⟨failure, unread⟩ := unread
    rw [execute_of_unread unread]
  · intro failure failed key
    rcases files_of_error failed with same | same
    · left
      rw [same]
    · rw [same]
      exact opened_entries config given files key
  · intro done succeeds key
    have isOk : (execute config given now files).outcome.isOk = true := by
      rw [succeeds]
      rfl
    obtain ⟨document, _, result⟩ := written_of_execute isOk
    obtain ⟨processed, _, saved⟩ := wrote_iff.1 result
    obtain ⟨place, leads, put⟩ := FileTree.put_of_write_text saved
    rw [put]
    by_cases here : key = place.key
    · subst here
      exact Or.inr (Or.inr (leads_to_of_opened leads))
    · have kept := FileTree.entries_put (opened config given files) place (.text processed.pretty) key
      rw [if_neg here] at kept
      rcases opened_entries config given files key with same | made
      · exact Or.inl (kept.trans same)
      · refine Or.inr (Or.inl ⟨made.noIndex, made.configured, made.leads, made.free, ?_⟩)
        exact kept.trans made.made

end Refused

def sampleRefusedConfig : RunConfig :=
  { sampleConfig with
    output := "missing/bom.json"
    databasePath := "symbols.db" }

theorem documents_alone_fail_run_of_sample :
    (∃ failure, (execute sampleRefusedConfig .none ⟨0⟩ sampleFiles).outcome = .error failure) ∧
      ∀ key, (execute sampleRefusedConfig .none ⟨0⟩ sampleFiles).files.entries.get? key =
          sampleFiles.entries.get? key ∨
        MadeDatabase sampleRefusedConfig .none sampleFiles
          (execute sampleRefusedConfig .none ⟨0⟩ sampleFiles).files key := by
  have unwritten : (opened sampleRefusedConfig .none sampleFiles).writeText
      sampleRefusedConfig.outputPath "" = .error .notFound := by
    rfl
  have refused : Refused sampleRefusedConfig .none ⟨0⟩ sampleFiles :=
    .unwritable (FileTree.refuses_iff.2 ⟨_, unwritten⟩)
  obtain ⟨isError, _, ofError, _⟩ :=
    documents_alone_fail_run sampleRefusedConfig .none ⟨0⟩ sampleFiles
  obtain ⟨failure, failed⟩ := isError.2 refused
  exact ⟨⟨failure, failed⟩, ofError failure failed⟩

end Run

end BomEvidence
