import BomEvidence.Proofs.Evidence.Failures
import BomEvidence.Proofs.Run.Callstacks
import BomEvidence.Proofs.Run.Faults
import BomEvidence.Proofs.Run.Rerun

/-!
Runs whose sources fail. An index or a detector that fails on some texts is as good as one that
finds nothing there, and a slice that cannot be loaded is as good as one that is not configured:
such a run reports and writes what the other one does.
-/

namespace BomEvidence

/-! ### Sources that fail -/

/-- One source fails on a set of texts, where the other one finds nothing. Elsewhere they tell the
same. -/
structure Silences {Item : Type} (texts : Set String)
    (failing quiet : String → Except Failure (List Item)) : Prop where
  fails : ∀ text, (∃ failure, failing text = .error failure) ↔ text ∈ texts
  silent : ∀ text ∈ texts, quiet text = .ok []
  same : ∀ text ∉ texts, quiet text = failing text

theorem Silences.findings_eq {Item : Type} {texts : Set String}
    {failing quiet : String → Except Failure (List Item)}
    (silences : Silences texts failing quiet) : findings ∘ failing = findings ∘ quiet := by
  funext text
  rw [Function.comp_apply, Function.comp_apply]
  by_cases member : text ∈ texts
  · obtain ⟨failure, failed⟩ := (silences.fails text).2 member
    rw [failed, silences.silent text member]
    rfl
  · rw [silences.same text member]

theorem silenced_findings_eq {Source Item : Type}
    {find : Source → String → Except Failure (List Item)} {texts : Set String}
    {first second : Option Source}
    (related : Option.Rel (fun failing quiet => Silences texts (find failing) (find quiet)) first
      second) :
    (first.map fun source => findings ∘ find source) =
      second.map fun source => findings ∘ find source := by
  cases related with
  | none => rfl
  | some silences => exact congrArg some silences.findings_eq

/-! ### Runs with the same effect -/

/-- A report without what became of the single slices. -/
def RunReport.unsliced (report : RunReport) : RunReport := { report with slices := [] }

namespace Run

theorem add_slice_concurs {Slice : Type} {add : Collector → Slice → Collector}
    {first second : Collector}
    (keeps : ∀ {first second : Collector}, first.Concurs second →
      ∀ slice, (add first slice).Concurs (add second slice))
    (slice : Option (LoadedSlice Slice)) (same : first.Concurs second) :
    (addSlice add slice first).Concurs (addSlice add slice second) := by
  cases slice with
  | none => exact same
  | some slice => exact keeps same slice.data

theorem collect_concurs {first second : Collector} {slices others : RunSlices}
    (same : first.Concurs second) (alike : slices.LoadedAlike others)
    (components : List Bom.Component) :
    (collect first components slices).Concurs (collect second components others) := by
  unfold collect
  rw [alike.reachables, alike.usages, alike.semantics, alike.dataFlow]
  apply add_slice_concurs Collector.Concurs.add_data_flow
  apply add_slice_concurs fun concurs slice => concurs.add_semantics components slice
  apply add_slice_concurs Collector.Concurs.add_usages
  exact add_slice_concurs Collector.Concurs.add_reachables _ same

/-- A run left a document, from which its last step made the output file. -/
def Leaves (config : RunConfig) (given : Collaborators) (now : Instant) (files : FileTree)
    (written : Bom.Document) : Prop :=
  ∃ processed, given.postProcessor.process written.toJson = .ok processed ∧
    (execute config given now files).files.readText config.outputPath = .ok processed.pretty

/-- At one instant two runs end alike and leave the same files. At any instants at which they
succeed they report the same, and leave documents that differ in their times at most. -/
structure SameEffect (config other : RunConfig) (given others : Collaborators)
    (files : FileTree) : Prop where
  outcome : ∀ now, (execute config given now files).outcome.map RunReport.unsliced =
    (execute other others now files).outcome.map RunReport.unsliced
  changes : ∀ now, (execute config given now files).files = (execute other others now files).files
  reports : ∀ now next first second, (execute config given now files).outcome = .ok first →
    (execute other others next files).outcome = .ok second → first.unsliced = second.unsliced
  documents : ∀ now next, (execute config given now files).outcome.isOk = true →
    (execute other others next files).outcome.isOk = true →
    ∃ written rewritten, Leaves config given now files written ∧
      Leaves other others next files rewritten ∧
      written.untimed = rewritten.untimed ∧ written.version = rewritten.version

structure Likewise (config other : RunConfig) (given others : Collaborators)
    (files : FileTree) : Prop where
  language : config.language = other.language
  annotate : config.annotate = other.annotate
  output : config.outputPath = other.outputPath
  process : given.postProcessor = others.postProcessor
  reads : readDocument config files = readDocument other files
  opens : opened config given files = opened other others files
  starts : ∀ document, (starter config given files document).Concurs
    (starter other others files document)
  loads : ∀ document, (slices config given files document).LoadedAlike
    (slices other others files document)

section Likewise

variable {config other : RunConfig} {given others : Collaborators} {files : FileTree}

theorem Likewise.collected (likewise : Likewise config other given others files)
    (document : Bom.Document) : (collected config given files document).Concurs
      (Run.collected other others files document) := by
  unfold Run.collected seed
  rw [likewise.language]
  exact collect_concurs ((likewise.starts document).add_locations _) (likewise.loads document)
    document.components

theorem Likewise.evidenced (likewise : Likewise config other given others files)
    (document : Bom.Document) (now : Instant) : evidenced config given files document now =
      Run.evidenced other others files document now := by
  have loads := likewise.loads document
  unfold Run.evidenced records
  rw [(likewise.collected document).maps, likewise.annotate, loads.any_loaded, loads.records]

theorem Likewise.report (likewise : Likewise config other given others files)
    (document : Bom.Document) : (report config given files document).unsliced =
      (Run.report other others files document).unsliced := by
  have collected := likewise.collected document
  unfold RunReport.unsliced Run.report statusOf
  dsimp only
  rw [collected.maps, collected.resolver.queries, collected.resolver.cache, likewise.output,
    (likewise.loads document).any_loaded]

theorem Likewise.wrote (likewise : Likewise config other given others files)
    (document : Bom.Document) (now : Instant) : wrote config given now files document =
      Run.wrote other others now files document := by
  unfold Run.wrote
  rw [likewise.output, likewise.process, likewise.evidenced, likewise.opens]

theorem Likewise.same_effect (likewise : Likewise config other given others files) :
    SameEffect config other given others files := by
  constructor
  · intro now
    cases read : readDocument config files with
    | error failure =>
        rw [execute_of_unread read, execute_of_unread (likewise.reads.symm.trans read)]
    | ok document =>
        rw [(execute_of_read read).1, (execute_of_read (likewise.reads.symm.trans read)).1,
          likewise.wrote]
        cases Run.wrote other others now files document with
        | error failure => rfl
        | ok changed => exact congrArg Except.ok (likewise.report document)
  · intro now
    cases read : readDocument config files with
    | error failure =>
        rw [execute_of_unread read, execute_of_unread (likewise.reads.symm.trans read)]
    | ok document =>
        rw [(execute_of_read read).2, (execute_of_read (likewise.reads.symm.trans read)).2,
          likewise.wrote, likewise.opens]
  · intro now next first second succeeds alsoSucceeds
    cases read : readDocument config files with
    | error failure =>
        rw [execute_of_unread read] at succeeds
        cases succeeds
    | ok document =>
        rw [report_of_execute read succeeds,
          report_of_execute (likewise.reads.symm.trans read) alsoSucceeds, likewise.report]
  · intro now next succeeds alsoSucceeds
    obtain ⟨document, read, processed, made, text⟩ := execute_is_ok succeeds
    obtain ⟨same, alsoRead, others, alsoMade, alsoText⟩ := execute_is_ok alsoSucceeds
    have isSame : document = same :=
      Except.ok.inj ((read.symm.trans likewise.reads).trans alsoRead)
    subst isSame
    refine ⟨_, _, ⟨processed, made, text⟩, ⟨others, alsoMade, alsoText⟩, ?_, ?_⟩
    · rw [likewise.evidenced]
      exact Bom.Document.attach_untimed document _ _ now next
    · rw [likewise.evidenced]
      rfl

end Likewise

/-! ### Runs whose sources fail -/

/-- The index of one run fails on a set of needles and its detector on a set of codes. The index
and the detector of another run find nothing there, and otherwise tell the same. -/
structure Silenced (needles codes : Set String) (config : RunConfig)
    (given quiet : Collaborators) (files : FileTree) : Prop where
  index : Option.Rel (fun failing silent => Silences needles failing.find silent.find)
    (index config given files) (index config quiet files)
  detector : Option.Rel (fun failing silent => Silences codes failing.detect silent.detect)
    (detector config given files) (detector config quiet files)
  opens : opened config given files = opened config quiet files
  process : given.postProcessor = quiet.postProcessor

section Failures

variable {config : RunConfig} {given : Collaborators} {files : FileTree}

theorem Silenced.likewise {needles codes : Set String} {quiet : Collaborators}
    (silenced : Silenced needles codes config given quiet files) :
    Likewise config config given quiet files := by
  have indexes := silenced_findings_eq silenced.index
  have detectors := silenced_findings_eq silenced.detector
  refine ⟨rfl, rfl, rfl, silenced.process, rfl, silenced.opens, ?_, ?_⟩
  · intro document
    exact ⟨⟨rfl, rfl, indexes, rfl, rfl⟩, detectors, rfl, rfl⟩
  · intro document
    unfold slices
    rw [silenced.opens]
    exact ⟨rfl, rfl, rfl, rfl⟩

theorem likewise_without {kind : SliceKind}
    (fault : config.SliceFault (opened config given files) kind) :
    Likewise config (config.withoutSlice kind) given given files := by
  have loads : ∀ document, (slices config given files document).LoadedAlike
      (slices (config.withoutSlice kind) given files document) := by
    intro document
    have alike := RunSlices.loaded_without fault (!document.components.isEmpty)
    cases kind <;> exact alike
  have starts : ∀ document, (starter config given files document).Concurs
      (starter (config.withoutSlice kind) given files document) := by
    intro document
    cases kind <;> exact ⟨⟨rfl, rfl, rfl, rfl, rfl⟩, rfl, rfl, rfl⟩
  cases kind <;> exact ⟨rfl, rfl, rfl, rfl, rfl, rfl, starts, loads⟩

/-- What fails tells nothing. An index and a detector may find nothing where they fail, and a slice
with a fault may be left out of the configuration: the run has the same effect. -/
theorem failures_tell_nothing (config : RunConfig) (given : Collaborators) (files : FileTree) :
    (∀ needles codes quiet, Silenced needles codes config given quiet files →
      SameEffect config config given quiet files) ∧
    ∀ kind, config.SliceFault (opened config given files) kind →
      SameEffect config (config.withoutSlice kind) given given files := by
  constructor
  · intro needles codes quiet silenced
    exact silenced.likewise.same_effect
  · intro kind fault
    exact (likewise_without fault).same_effect

end Failures

def sampleFailing : Collaborators where
  index := some ⟨"memory", fun needle =>
    if needle = "slf4j.Logger" then .error (.index (.queryFailed "locked"))
    else .ok ["pkg:maven/slf4j@2.0"]⟩
  detector := some ⟨"none", fun code =>
    if code = "\nencrypt" then .error (.detector (.detectionFailed "refused")) else .ok []⟩
  postProcessor := .identity

def sampleQuiet : Collaborators where
  index := some ⟨"memory", fun needle =>
    if needle = "slf4j.Logger" then .ok [] else .ok ["pkg:maven/slf4j@2.0"]⟩
  detector := some ⟨"none", fun _ => .ok []⟩
  postProcessor := .identity

def sampleCryptoConfig : RunConfig := { sampleStackConfig with includeCrypto := true }

theorem failures_tell_nothing_of_sample :
    Silenced {"slf4j.Logger"} {"\nencrypt"} sampleCryptoConfig sampleFailing sampleQuiet
        sampleFiles ∧
      sampleCryptoConfig.SliceFault (opened sampleCryptoConfig sampleFailing sampleFiles)
        .dataFlow ∧
      SameEffect sampleCryptoConfig sampleCryptoConfig sampleFailing sampleQuiet sampleFiles ∧
      SameEffect sampleCryptoConfig (sampleCryptoConfig.withoutSlice .dataFlow) sampleFailing
        sampleFailing sampleFiles := by
  have silenced : Silenced {"slf4j.Logger"} {"\nencrypt"} sampleCryptoConfig sampleFailing
      sampleQuiet sampleFiles := by
    refine ⟨.some ⟨?_, ?_, ?_⟩, .some ⟨?_, ?_, ?_⟩, rfl, rfl⟩
    · intro text
      by_cases same : text = "slf4j.Logger" <;> simp [same]
    · intro text member
      simp [Set.mem_singleton_iff.1 member]
    · intro text apart
      have other : text ≠ "slf4j.Logger" := apart
      simp [other]
    · intro text
      by_cases same : text = "\nencrypt" <;> simp [same]
    · intro text member
      rfl
    · intro text apart
      have other : text ≠ "\nencrypt" := apart
      simp [other]
  have fault : sampleCryptoConfig.SliceFault
      (opened sampleCryptoConfig sampleFailing sampleFiles) .dataFlow :=
    ⟨"data-flow.json", rfl, .missing (by decide +kernel)⟩
  obtain ⟨ofSilenced, ofFault⟩ := failures_tell_nothing sampleCryptoConfig sampleFailing sampleFiles
  exact ⟨silenced, fault, ofSilenced _ _ _ silenced, ofFault _ fault⟩

end Run

end BomEvidence
