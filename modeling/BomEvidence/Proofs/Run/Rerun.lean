import BomEvidence.Proofs.Run.Turns

/-!
Runs that follow one another. A run on the document that another run wrote, with the same
slices and the same answers, attaches what is there already: apart from its version and its
times the document stays as it is.
-/

namespace BomEvidence

/-! ### Documents without their times -/

def Json.eraseMember (key : String) : Json → Json
  | .object members => .object (members.filter fun member => member.1 ≠ key)
  | other => other

/-- A document without its version, its time and the times of its annotations. -/
def Bom.Document.untimed (document : Document) : Document :=
  { document with
    version := none
    metadata := document.metadata.map fun metadata => { metadata with timestamp := none }
    annotations := document.annotations.map (·.map (Json.eraseMember "timestamp")) }

namespace Bom.Document

theorem annotation_untimed (document : Document) (slice : SliceRecord) (now next : Instant) :
    (document.annotation now slice).eraseMember "timestamp" =
      (document.annotation next slice).eraseMember "timestamp" := by
  have untimed : ∀ time : String, Json.eraseMember "timestamp"
        (.object [("annotator", .object [("component", document.firstTool?.getD ownComponent)]),
          ("subjects", annotation.textsOf document.serialNumber), ("text", .text slice.text),
          ("timestamp", .text time)]) =
      .object [("annotator", .object [("component", document.firstTool?.getD ownComponent)]),
        ("subjects", annotation.textsOf document.serialNumber), ("text", .text slice.text)] := by
    intro time
    simp [Json.eraseMember]
  exact (untimed now.text).trans (untimed next.text).symm

theorem attach_untimed (document : Document) (maps : EvidenceMaps)
    (records : Option (List SliceRecord)) (now next : Instant) :
    (document.attach maps records now).untimed = (document.attach maps records next).untimed := by
  have annotations : (document.attach maps records now).annotations.map
        (·.map (Json.eraseMember "timestamp")) =
      (document.attach maps records next).annotations.map
        (·.map (Json.eraseMember "timestamp")) := by
    cases records with
    | none => rfl
    | some slices =>
        have each : (slices.map (document.annotation now)).map (Json.eraseMember "timestamp") =
            (slices.map (document.annotation next)).map (Json.eraseMember "timestamp") := by
          rw [List.map_map, List.map_map]
          exact List.map_congr_left fun slice _ => annotation_untimed document slice now next
        exact congrArg some each
  have metadata (time : Instant) : (document.attach maps records time).metadata.map
        (fun metadata => { metadata with timestamp := none }) =
      some { document.metadata.getD default with timestamp := none } := rfl
  unfold untimed
  rw [annotations, metadata now, metadata next]
  rfl

end Bom.Document

namespace Run

theorem evidenced_evidenced {config later : RunConfig} {given : Collaborators}
    {files laterFiles : FileTree} (sources : SameSources config later given files laterFiles)
    (document : Bom.Document) (now next : Instant) :
    evidenced later given laterFiles (evidenced config given files document now) next =
      { evidenced config given files document next with
        version := some (document.version.getD 1 + 1 + 1) } := by
  have alike : (collected later given laterFiles
      (evidenced config given files document now)).maps.AttachAlike
      (collected config given files document).maps document.components :=
    collected_attach_alike sources
  change (evidenced config given files document now).attach
      (collected later given laterFiles (evidenced config given files document now)).maps
      (records later given laterFiles (evidenced config given files document now)) next = _
  rw [records_again sources]
  exact Bom.Document.attach_attach alike

/-- A run on what another run left changes nothing but the version and the times. -/
theorem rerun_keeps_evidence {config later : RunConfig} {given : Collaborators}
    {now next : Instant} {files laterFiles : FileTree} {before after final : Bom.Document}
    (first : Turns config given now files before after)
    (second : Turns later given next laterFiles after final)
    (sources : SameSources config later given files laterFiles)
    (plain : given.postProcessor = .identity)
    (firstReread : (evidenced config given files before now).toJson.Reread)
    (secondReread : (evidenced later given laterFiles after next).toJson.Reread) :
    final.components = after.components ∧ final.services = after.services ∧
      final.dependencies = after.dependencies ∧ final.untimed = after.untimed := by
  have afterIs := first.after_eq plain firstReread
  have finalIs := second.after_eq plain secondReread
  rw [afterIs, evidenced_evidenced sources] at finalIs
  have untimed : final.untimed = after.untimed := by
    rw [finalIs, afterIs]
    exact Bom.Document.attach_untimed before (collected config given files before).maps
      (records config given files before) next now
  have components : final.components = after.components := by
    rw [finalIs, afterIs]
    rfl
  have services : final.services = after.services := by
    rw [finalIs, afterIs]
    rfl
  have dependencies : final.dependencies = after.dependencies := by
    rw [finalIs, afterIs]
    rfl
  exact ⟨components, services, dependencies, untimed⟩

def sampleLaterFiles : FileTree := (execute sampleConfig sampleCollaborators ⟨0⟩ sampleFiles).files

def sampleAfter : Bom.Document :=
  evidenced sampleConfig sampleCollaborators sampleFiles sampleDocument ⟨0⟩

def sampleFinal : Bom.Document :=
  evidenced sampleConfig sampleCollaborators sampleLaterFiles sampleAfter ⟨1⟩

theorem rerun_of_sample :
    (Turns sampleConfig sampleCollaborators ⟨0⟩ sampleFiles sampleDocument sampleAfter ∧
      Turns sampleConfig sampleCollaborators ⟨1⟩ sampleLaterFiles sampleAfter sampleFinal ∧
      SameSources sampleConfig sampleConfig sampleCollaborators sampleFiles sampleLaterFiles ∧
      sampleCollaborators.postProcessor = .identity ∧
      sampleAfter.toJson.Reread ∧ sampleFinal.toJson.Reread) ∧
    sampleFinal.components = sampleAfter.components ∧
      sampleFinal.services = sampleAfter.services ∧
      sampleFinal.dependencies = sampleAfter.dependencies ∧
      sampleFinal.untimed = sampleAfter.untimed := by
  have inPlace : InPlace sampleConfig sampleCollaborators := ⟨rfl, Or.inl rfl, rfl⟩
  have read : readDocument sampleConfig sampleFiles = .ok sampleDocument := by
    have parsed : (readDocument sampleConfig sampleFiles).toOption = some sampleDocument := by
      decide +kernel
    cases outcome : readDocument sampleConfig sampleFiles with
    | error failure =>
        rw [outcome] at parsed
        cases parsed
    | ok document =>
        rw [outcome] at parsed
        exact congrArg Except.ok (Option.some.inj parsed)
  have apart : ∀ path ∈ sampleConfig.sourcePaths,
      sampleFiles.areApart sampleConfig.input path = true := by
    decide +kernel
  have sources := sources_in_place inPlace read apart ⟨0⟩
  have firstReread : sampleAfter.toJson.Reread := by
    apply Json.reread_of_plain
    decide +kernel
  have secondReread : sampleFinal.toJson.Reread := by
    rw [sampleFinal, sampleAfter, sampleLaterFiles, evidenced_evidenced sources]
    apply Json.reread_of_plain
    decide +kernel
  have first := turns_in_place inPlace read firstReread
  have second := turns_in_place inPlace (read_in_place inPlace read firstReread) secondReread
  exact ⟨⟨first, second, sources, rfl, firstReread, secondReread⟩,
    rerun_keeps_evidence first second sources rfl firstReread secondReread⟩

end Run

end BomEvidence
