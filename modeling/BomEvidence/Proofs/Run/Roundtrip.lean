import BomEvidence.Proofs.Bom.Depth
import BomEvidence.Proofs.Run.Turns

/-!
Documents that are written and read again. As a value every document is read back as it is, with or
without evidence. In its text a floating-point number may be read as another one, and a tool that an
annotation names may stand too deep to be read at all; apart from that the next run reads what a run
without a post-processor of its own wrote.
-/

namespace BomEvidence

namespace Run

theorem fits_of_parse {path source : String} {document : Bom.Document}
    (parsed : Bom.Document.parse path source = .ok document) : document.Fits := by
  unfold Bom.Document.parse at parsed
  split at parsed
  · rename_i held read
    cases parsed
    obtain ⟨tree, isTree, treeRead⟩ := Option.bind_eq_some_iff.1 read
    exact Bom.Document.fits_of_tree (Json.Tree.of_text_fits isTree) treeRead
  · cases parsed

theorem version_of_reread (document : Bom.Document) (maps : EvidenceMaps)
    (records : Option (List SliceRecord)) (now : Instant) :
    (document.attach maps records now).reread.specVersion = document.specVersion ∧
      (document.attach maps records now).reread.requireVersion = document.requireVersion :=
  ⟨rfl, rfl⟩

variable {config next : RunConfig} {given : Collaborators} {now : Instant} {files : FileTree}
  {document : Bom.Document}

theorem written_text (plain : given.postProcessor = .identity)
    (done : (execute config given now files).outcome.isOk = true)
    (read : readDocument config files = .ok document) :
    (execute config given now files).files.readText config.outputPath =
      .ok (evidenced config given files document now).toJson.pretty := by
  obtain ⟨own, ownRead, processed, made, written⟩ := execute_is_ok done
  have same : own = document := Except.ok.inj (ownRead.symm.trans read)
  rw [plain, same] at made
  have unprocessed : (evidenced config given files document now).toJson = processed :=
    Except.ok.inj made
  rw [written, unprocessed]

/-- The next run reads the document with its numbers read anew, if it can read the tool that the
annotations name. -/
theorem read_of_written (plain : given.postProcessor = .identity)
    (done : (execute config given now files).outcome.isOk = true)
    (read : readDocument config files = .ok document) (follows : next.input = config.outputPath) :
    readDocument next (execute config given now files).files =
      if document.annotatorFits (records config given files document) then
        .ok (evidenced config given files document now).reread
      else .error (.bomUnparsed next.input "not a bill of materials") := by
  have text := written_text plain done read
  rw [← follows] at text
  obtain ⟨source, version, _, parsed, required⟩ := read_document_iff.1 read
  have again : Bom.Document.parse next.input
      (evidenced config given files document now).toJson.pretty = _ :=
    Bom.Document.parse_attach (sound_of_parse parsed) (fits_of_parse parsed) next.input
  cases annotator : document.annotatorFits (records config given files document) with
  | true =>
      rw [annotator] at again
      exact read_document_iff.2 ⟨_, version, text, again, required⟩
  | false =>
      rw [annotator] at again
      unfold readDocument
      rw [text]
      dsimp only
      rw [again]
      rfl

/-- A document that was read is read back from its value, with or without evidence. What a run
without a post-processor of its own writes is read again by the next run as the same document with
its floating-point numbers as they are read, and with its version. Only where annotations name a
tool that is too deep there it is refused. -/
theorem documents_round_trip :
    (∀ {path source : String} {document : Bom.Document},
      Bom.Document.parse path source = .ok document →
        Bom.Document.ofTree? document.toJson.tree = some document ∧
        ∀ maps records now, Bom.Document.ofTree? (document.attach maps records now).toJson.tree =
          some (document.attach maps records now)) ∧
    ∀ {config next : RunConfig} {given : Collaborators} {now : Instant} {files : FileTree},
      given.postProcessor = .identity → (execute config given now files).outcome.isOk = true →
      next.input = config.outputPath →
      ∃ document, readDocument config files = .ok document ∧
        let written := evidenced config given files document now
        (execute config given now files).files.readText config.outputPath =
            .ok written.toJson.pretty ∧
          readDocument next (execute config given now files).files =
            (if document.annotatorFits (records config given files document) then .ok written.reread
              else .error (.bomUnparsed next.input "not a bill of materials")) ∧
          written.reread.specVersion = document.specVersion ∧
          written.reread.requireVersion = document.requireVersion := by
  constructor
  · intro path source document parsed
    have sound := sound_of_parse parsed
    refine ⟨(Bom.Document.reads sound).back, ?_⟩
    intro maps records now
    exact (Bom.Document.reads (Bom.Document.attach_sound sound maps records now)).back
  · intro config next given now files plain done follows
    obtain ⟨document, read, _⟩ := execute_is_ok done
    exact ⟨document, read, written_text plain done read, read_of_written plain done read follows,
      version_of_reread document _ _ now⟩

def nested : Nat → Json
  | 0 => .array []
  | depth + 1 => .array [nested depth]

def toolDocument (depth : Nat) : Bom.Document :=
  { (default : Bom.Document) with
    specVersion := some "1.5"
    metadata := some { (default : Bom.Metadata) with tools := some (.array [nested depth]) } }

def toolFiles (depth : Nat) : FileTree :=
  (FileTree.empty.add "bom.json" (.text (toolDocument depth).toJson.pretty)).add "usages.json"
    (.text "\x7b\x7d")

theorem nested_canonical (depth : Nat) : (nested depth).Canonical := by
  induction depth with
  | zero => rfl
  | succ depth ih =>
      apply Json.canonical_array
      intro item member
      rwa [List.mem_singleton.1 member]

theorem tool_sound (depth : Nat) : (toolDocument depth).Sound := by
  constructor
  case metadata =>
    intro metadata held
    cases held
    refine ⟨?_, Json.Others.none _⟩
    intro tools held
    cases held
    exact ⟨nested_canonical (depth + 1), fun null => by cases null⟩
  case components =>
    intro component member
    cases member
  case extra => exact Json.Others.none _
  all_goals
    intro list held
    cases held

theorem parse_tool {depth : Nat} (plain : (toolDocument depth).toJson.isPlain 0 = true) :
    Bom.Document.parse "bom.json" (toolDocument depth).toJson.pretty = .ok (toolDocument depth) :=
  parse_of_reread (tool_sound depth) (Json.reread_of_plain plain) "bom.json"

theorem read_tool {depth : Nat} (plain : (toolDocument depth).toJson.isPlain 0 = true) :
    readDocument sampleConfig (toolFiles depth) = .ok (toolDocument depth) := by
  have found : (toolFiles depth).readText "bom.json" = .ok (toolDocument depth).toJson.pretty := rfl
  have required : (toolDocument depth).requireVersion = .ok ⟨1, 5⟩ := rfl
  exact read_document_iff.2 ⟨_, _, found, parse_tool plain, required⟩

theorem tool_run_succeeds {depth : Nat} (plain : (toolDocument depth).toJson.isPlain 0 = true) :
    (execute sampleConfig sampleCollaborators ⟨0⟩ (toolFiles depth)).outcome.isOk = true := by
  have inPlace : InPlace sampleConfig sampleCollaborators := ⟨rfl, Or.inl rfl, rfl⟩
  exact (written_in_place inPlace (read_tool plain) ⟨0⟩).2

theorem sample_follows : sampleConfig.input = sampleConfig.outputPath := rfl

theorem round_trip_of_tool :
    (Bom.Document.parse "bom.json" (toolDocument 122).toJson.pretty = .ok (toolDocument 122) ∧
      sampleCollaborators.postProcessor = .identity ∧
      (execute sampleConfig sampleCollaborators ⟨0⟩ (toolFiles 122)).outcome.isOk = true ∧
      sampleConfig.input = sampleConfig.outputPath) ∧
    Bom.Document.ofTree? (toolDocument 122).toJson.tree = some (toolDocument 122) ∧
    readDocument sampleConfig
        (execute sampleConfig sampleCollaborators ⟨0⟩ (toolFiles 122)).files =
      .ok (evidenced sampleConfig sampleCollaborators (toolFiles 122) (toolDocument 122)
        ⟨0⟩).reread := by
  have plain : (toolDocument 122).toJson.isPlain 0 = true := by decide +kernel
  have annotator : (toolDocument 122).annotatorFits
      (records sampleConfig sampleCollaborators (toolFiles 122) (toolDocument 122)) = true := by
    decide +kernel
  have parsed := parse_tool plain
  have done := tool_run_succeeds plain
  obtain ⟨document, read, _, again, _⟩ := documents_round_trip.2 rfl done sample_follows
  have same : document = toolDocument 122 := Except.ok.inj (read.symm.trans (read_tool plain))
  rw [same, annotator] at again
  exact ⟨⟨parsed, rfl, done, rfl⟩, (documents_round_trip.1 parsed).1, again⟩

/-- A tool on the last level is written where it cannot be read any more. -/
theorem deep_tool_is_refused :
    sampleCollaborators.postProcessor = .identity ∧
    (execute sampleConfig sampleCollaborators ⟨0⟩ (toolFiles 123)).outcome.isOk = true ∧
    readDocument sampleConfig
        (execute sampleConfig sampleCollaborators ⟨0⟩ (toolFiles 123)).files =
      .error (.bomUnparsed "bom.json" "not a bill of materials") := by
  have plain : (toolDocument 123).toJson.isPlain 0 = true := by decide +kernel
  have annotator : (toolDocument 123).annotatorFits
      (records sampleConfig sampleCollaborators (toolFiles 123) (toolDocument 123)) = false := by
    decide +kernel
  have done := tool_run_succeeds plain
  have again := read_of_written rfl done (read_tool plain) sample_follows
  rw [annotator] at again
  exact ⟨rfl, done, again⟩

end Run

end BomEvidence
