import BomEvidence.Proofs.Bom.Sound
import BomEvidence.Proofs.Json.Written
import BomEvidence.Proofs.Run.Again

/-!
Runs that leave a document for the next run. What a run leaves is the document with the
evidence that it collected, and a run that writes to its own input can be done again with the
same slices.
-/

namespace BomEvidence

/-! ### What slices are loaded from -/

theorem FileTree.read_text_congr {tree changed : FileTree} {path : String}
    (same : changed.find path = tree.find path) : changed.readText path = tree.readText path := by
  unfold readText
  rw [same]

theorem SliceKind.load_congr {Slice : Type} {kind : SliceKind} {read : Json.Tree.Reader Slice}
    {path : Option String} {limits : SliceLimits} {files laterFiles : FileTree}
    (same : ∀ own ∈ path, laterFiles.find own = files.find own) :
    kind.load read path limits laterFiles = kind.load read path limits files := by
  cases path with
  | none => rfl
  | some own =>
      have found := same own rfl
      unfold load readFile
      dsimp only
      rw [found, FileTree.read_text_congr found]

def RunConfig.sourcePaths (config : RunConfig) : List String :=
  config.usagesPath.toList ++ config.dataFlowPath.toList ++ config.reachablesPath.toList ++
    config.semanticsPath.toList ++ [config.cryptoCatalogPath]

namespace Run

section Sources

variable {config : RunConfig} {files laterFiles : FileTree}

theorem load_congr
    (same : ∀ path ∈ config.sourcePaths, laterFiles.find path = files.find path)
    (hasComponents : Bool) :
    RunSlices.load config hasComponents laterFiles = RunSlices.load config hasComponents files := by
  have usages : ∀ own ∈ config.usagesPath, laterFiles.find own = files.find own := by
    intro own isPath
    exact same own (by simp_all [RunConfig.sourcePaths])
  have dataFlow : ∀ own ∈ config.dataFlowPath, laterFiles.find own = files.find own := by
    intro own isPath
    exact same own (by simp_all [RunConfig.sourcePaths])
  have reachables : ∀ own ∈ config.reachablesPath, laterFiles.find own = files.find own := by
    intro own isPath
    exact same own (by simp_all [RunConfig.sourcePaths])
  have semantics : ∀ own ∈ config.semanticsPath, laterFiles.find own = files.find own := by
    intro own isPath
    exact same own (by simp_all [RunConfig.sourcePaths])
  unfold RunSlices.load
  rw [SliceKind.load_congr usages, SliceKind.load_congr dataFlow, SliceKind.load_congr reachables,
    SliceKind.load_congr semantics]

theorem choose_detector_congr {given : Option Detector}
    (same : laterFiles.find config.cryptoCatalogPath = files.find config.cryptoCatalogPath) :
    chooseDetector config given laterFiles = chooseDetector config given files := by
  unfold chooseDetector AlgorithmCatalog.ofFile
  rw [FileTree.read_text_congr same]

end Sources

/-! ### One run after another -/

/-- A run reads one document and leaves another one in its output file. -/
structure Turns (config : RunConfig) (given : Collaborators) (now : Instant) (files : FileTree)
    (before after : Bom.Document) : Prop where
  reads : readDocument config files = .ok before
  succeeds : (execute config given now files).outcome.isOk = true
  leaves : ∃ text, (execute config given now files).files.readText config.outputPath = .ok text ∧
    Bom.Document.parse config.outputPath text = .ok after

theorem read_document_iff {config : RunConfig} {files : FileTree} {document : Bom.Document} :
    readDocument config files = .ok document ↔
      ∃ source version, files.readText config.input = .ok source ∧
        Bom.Document.parse config.input source = .ok document ∧
        document.requireVersion = .ok version := by
  constructor
  · intro read
    unfold readDocument at read
    split at read
    · cases read
    · rename_i source found
      cases parsed : Bom.Document.parse config.input source with
      | error failure =>
          rw [parsed] at read
          cases read
      | ok held =>
          rw [parsed] at read
          change (do let _ ← held.requireVersion; return held) = _ at read
          cases required : held.requireVersion with
          | error failure =>
              rw [required] at read
              cases read
          | ok version =>
              rw [required] at read
              cases read
              exact ⟨source, version, found, parsed, required⟩
  · intro fact
    rcases fact with ⟨source, version, found, parsed, required⟩
    unfold readDocument
    rw [found]
    dsimp only
    rw [parsed]
    change (do let _ ← document.requireVersion; return document) = _
    rw [required]
    rfl

theorem read_sample {config : RunConfig} {files : FileTree}
    (found : files.readText config.input = .ok sampleDocument.toJson.compact) :
    readDocument config files = .ok sampleDocument := by
  have read : (Json.Tree.ofText? sampleDocument.toJson.compact).bind Bom.Document.ofTree? =
      some sampleDocument := by
    decide +kernel
  have parsed : Bom.Document.parse config.input sampleDocument.toJson.compact =
      .ok sampleDocument := by
    unfold Bom.Document.parse
    rw [read]
  exact read_document_iff.2 ⟨_, ⟨1, 5⟩, found, parsed, rfl⟩

theorem sound_of_parse {path source : String} {document : Bom.Document}
    (parsed : Bom.Document.parse path source = .ok document) : document.Sound := by
  unfold Bom.Document.parse at parsed
  split at parsed
  · rename_i held read
    cases parsed
    obtain ⟨tree, _, treeRead⟩ := Option.bind_eq_some_iff.1 read
    exact Bom.Document.sound_of_tree treeRead
  · cases parsed

theorem sound_of_read {config : RunConfig} {files : FileTree} {document : Bom.Document}
    (read : readDocument config files = .ok document) : document.Sound := by
  obtain ⟨_, _, _, parsed, _⟩ := read_document_iff.1 read
  exact sound_of_parse parsed

theorem parse_of_reread {document : Bom.Document} (sound : document.Sound)
    (reread : document.toJson.Reread) (path : String) :
    Bom.Document.parse path document.toJson.pretty = .ok document := by
  unfold Bom.Document.parse
  rw [reread, Option.bind_some, (Bom.Document.reads sound).back]

theorem Turns.after_eq {config : RunConfig} {given : Collaborators} {now : Instant}
    {files : FileTree} {before after : Bom.Document}
    (turns : Turns config given now files before after) (plain : given.postProcessor = .identity)
    (reread : (evidenced config given files before now).toJson.Reread) :
    after = evidenced config given files before now := by
  obtain ⟨document, read, processed, made, written⟩ := execute_is_ok turns.succeeds
  obtain ⟨text, found, parsed⟩ := turns.leaves
  have isBefore : document = before := Except.ok.inj (read.symm.trans turns.reads)
  subst isBefore
  rw [plain] at made
  have unprocessed : (evidenced config given files document now).toJson = processed :=
    Except.ok.inj made
  have isWritten : text = processed.pretty := Except.ok.inj (found.symm.trans written)
  have sound : (evidenced config given files document now).Sound :=
    Bom.Document.attach_sound (sound_of_read read) _ _ now
  rw [isWritten, ← unprocessed, parse_of_reread sound reread] at parsed
  exact (Except.ok.inj parsed).symm


/-! ### Runs that write to their input -/

/-- A run that writes its document to where it read it, and nothing else. -/
structure InPlace (config : RunConfig) (given : Collaborators) : Prop where
  output : config.outputPath = config.input
  closed : given.index.isSome = true ∨ config.databasePath = ""
  plain : given.postProcessor = .identity

section InPlace

variable {config : RunConfig} {given : Collaborators} {now : Instant} {files : FileTree}
  {document : Bom.Document}

theorem InPlace.index_eq (inPlace : InPlace config given) (files : FileTree) :
    index config given files = given.index ∧ opened config given files = files := by
  unfold index opened chooseIndex
  cases chosen : given.index with
  | some held => exact ⟨rfl, rfl⟩
  | none =>
      have noDatabase : config.databasePath = "" := by
        rcases inPlace.closed with present | noDatabase
        · rw [chosen] at present
          cases present
        · exact noDatabase
      dsimp only
      rw [if_pos noDatabase]
      exact ⟨rfl, rfl⟩

theorem written_in_place (inPlace : InPlace config given)
    (read : readDocument config files = .ok document) (now : Instant) :
    files.writeText config.input (evidenced config given files document now).toJson.pretty =
        .ok (execute config given now files).files ∧
      (execute config given now files).outcome.isOk = true := by
  obtain ⟨source, _, found, _, _⟩ := read_document_iff.1 read
  obtain ⟨place, _, saved⟩ := FileTree.write_text_of_read_text found
    (evidenced config given files document now).toJson.pretty
  have wrote : wrote config given now files document =
      .ok (files.put place (.text (evidenced config given files document now).toJson.pretty)) := by
    unfold wrote writeDocument
    rw [inPlace.plain, inPlace.output, (inPlace.index_eq files).2]
    dsimp only [PostProcessor.identity]
    rw [saved]
  obtain ⟨succeeds, changed⟩ := execute_of_written read wrote
  rw [changed]
  exact ⟨saved, succeeds⟩

theorem turns_in_place (inPlace : InPlace config given)
    (read : readDocument config files = .ok document)
    (reread : (evidenced config given files document now).toJson.Reread) :
    Turns config given now files document (evidenced config given files document now) := by
  obtain ⟨saved, succeeds⟩ := written_in_place inPlace read now
  have sound := Bom.Document.attach_sound (sound_of_read read)
    (collected config given files document).maps (records config given files document) now
  refine ⟨read, succeeds, _, ?_, parse_of_reread sound reread config.outputPath⟩
  rw [inPlace.output]
  exact FileTree.read_text_of_write_text saved

theorem read_in_place (inPlace : InPlace config given)
    (read : readDocument config files = .ok document)
    (reread : (evidenced config given files document now).toJson.Reread) :
    readDocument config (execute config given now files).files =
      .ok (evidenced config given files document now) := by
  obtain ⟨_, version, _, _, required⟩ := read_document_iff.1 read
  have sound := Bom.Document.attach_sound (sound_of_read read)
    (collected config given files document).maps (records config given files document) now
  have found := FileTree.read_text_of_write_text (written_in_place inPlace read now).1
  exact read_document_iff.2
    ⟨_, version, found, parse_of_reread sound reread config.input, required⟩

/-- The next run has the same sources, as none of them stands where the document was written. -/
theorem sources_in_place (inPlace : InPlace config given)
    (read : readDocument config files = .ok document)
    (apart : ∀ path ∈ config.sourcePaths, files.areApart config.input path = true)
    (now : Instant) :
    SameSources config config given files (execute config given now files).files := by
  obtain ⟨source, _, found, _, _⟩ := read_document_iff.1 read
  have saved := (written_in_place inPlace read now).1
  have kept : ∀ path ∈ config.sourcePaths,
      (execute config given now files).files.find path = files.find path := fun path member =>
    FileTree.find_of_write_text found saved (apart path member)
  have first := inPlace.index_eq files
  have second := inPlace.index_eq (execute config given now files).files
  constructor
  · rfl
  · rfl
  · rw [second.1, first.1]
  · unfold detector
    rw [second.2, first.2]
    exact choose_detector_congr (kept config.cryptoCatalogPath (by simp [RunConfig.sourcePaths]))
  · intro hasComponents
    rw [second.2, first.2]
    exact load_congr kept hasComponents

end InPlace

end Run

end BomEvidence
