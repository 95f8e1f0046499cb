import BomEvidence.Proofs.Bom.Fitting
import BomEvidence.Proofs.Bom.Reread
import BomEvidence.Proofs.Json.Members

/-!
How deep evidence reaches. Attaching evidence adds little to the depth of a document, except that an
annotation names the first tool of the document one level deeper than an array of tools does. A
tool on the deepest level of an array is written where it cannot be read any more.
-/

namespace BomEvidence

namespace Json

theorem member_trees_on_eq (depth : Nat) (members : List (String × Json)) :
    memberTreesOn depth members = members.map fun member => (member.1, member.2.treeOn depth) := by
  induction members with
  | nil => rfl
  | cons member rest ih => rw [memberTreesOn, ih, List.map_cons]

theorem tree_on_of_map {depth : Nat} (inside : depth + 1 ≤ Tree.depthLimit) (members : TextMap Json) :
    (ofMap members).treeOn depth = .object (members.mapValues (treeOn (depth + 1))).entries := by
  rw [ofMap, treeOn, Tree.on_level_of_le inside, member_trees_on_eq]
  rfl

theorem tree_on_member {depth : Nat} (inside : depth + 1 ≤ Tree.depthLimit)
    {fields : List (String × Option Json)} {extra : TextMap Json} (key : String) :
    ((ofFields fields extra).treeOn depth).member? key =
      ((ofFields fields extra).member? key).map (treeOn (depth + 1)) := by
  rw [of_fields_eq, tree_on_of_map inside]
  have nodup := ((membersOf fields extra).mapValues (treeOn (depth + 1))).keys_nodup
  exact (TextMap.lookup_reverse nodup key).trans (TextMap.get_map_values ..)

theorem values_eq_map_m (items : List Tree) : items.mapM Tree.value? = Tree.values? items := by
  induction items with
  | nil => rfl
  | cons item rest ih => rw [List.mapM_cons, ih, Tree.values?]; rfl

end Json

namespace Bom

theorem Component.attach_fits (maps : EvidenceMaps) {depth : Nat} (component : Component)
    (fit : component.Fits depth) : (component.attach maps).Fits depth := by
  cases isPackage : component.purl with
  | none =>
      rw [attach_of_no_purl isPackage]
      exact ⟨fit.evidence, nofun, fit.extra⟩
  | some purl =>
      rw [attach_of_purl isPackage]
      refine ⟨?_, nofun, fit.extra⟩
      exact Evidence.merge_into_extras (Json.map_fits_empty _) (Json.map_fits_empty _)
        (Json.map_fits_empty _) _ fit.evidence

theorem Component.fits_of_algorithm {depth : Nat} (inside : depth + 2 ≤ Json.Tree.depthLimit)
    (hasAlgorithms : Bool) (algorithm : Algorithm) :
    (Component.ofAlgorithm hasAlgorithms algorithm).Fits depth := by
  refine ⟨nofun, nofun, ?_⟩
  cases hasAlgorithms with
  | false => exact Json.map_fits_empty _
  | true =>
      apply Json.map_fits_insert (Json.map_fits_empty _)
      apply Json.object_fits_iff.2 ⟨inside, ?_⟩
      cases algorithm.oid <;> simp [Json.text_fits]

namespace Document

/-- Whether the tool that annotations of slices name can be read there, if there are any. -/
def annotatorFits (records : Option (List SliceRecord)) (document : Document) : Bool :=
  (records.getD []).isEmpty || document.firstTool?.all (·.fits 4)

/-- The first tool stands three or four levels deep. -/
theorem first_tool_fits {document : Document} (fit : document.Fits) {tool : Json}
    (found : document.firstTool? = some tool) : tool.fits 3 = true ∨ tool.fits 4 = true := by
  simp only [firstTool?, Option.bind_eq_bind, Option.bind_eq_some_iff] at found
  obtain ⟨metadata, present, tools, hasTools, found⟩ := found
  have toolsFit := (fit.metadata metadata present).tools tools hasTools
  rcases Option.or_eq_some_iff.1 found with listed | ⟨_, first⟩
  · obtain ⟨components, member, item⟩ := Option.bind_eq_some_iff.1 listed
    exact Or.inr (Json.fits_item (Json.fits_member toolsFit member) item)
  · exact Or.inl (Json.fits_item toolsFit first)

theorem annotation_fits_iff {document : Document} {depth : Nat}
    (inside : depth + 2 ≤ Json.Tree.depthLimit) (now : Instant) (slice : SliceRecord) :
    (document.annotation now slice).fits depth = true ↔
      (document.firstTool?.getD ownComponent).fits (depth + 2) = true := by
  have outer : depth + 1 ≤ Json.Tree.depthLimit := by omega
  have subjects : (Json.fits (depth + 1) <| annotation.textsOf document.serialNumber) = true :=
    Json.of_list_fits inside fun text _ => Json.text_fits text
  simp [Json.object_fits_iff, Json.text_fits, subjects, outer, inside, annotation]

variable {document : Document} {maps : EvidenceMaps} {records : Option (List SliceRecord)}
  {now : Instant}

theorem annotations_fit (annotator : document.annotatorFits records = true) :
    ∀ slices, records = some slices → ∀ slice ∈ slices,
      (document.annotation now slice).fits 2 = true := by
  intro slices given slice member
  rw [annotation_fits_iff (by decide)]
  rcases Bool.or_eq_true_iff.1 annotator with nothing | fit
  · rw [given, Option.getD_some, List.isEmpty_iff] at nothing
    rw [nothing] at member
    cases member
  · cases found : document.firstTool? with
    | none => rfl
    | some tool => simpa [found] using fit

theorem attach_fits (fit : document.Fits) (annotator : document.annotatorFits records = true) :
    (document.attach maps records now).Fits where
  metadata := attach_metadata ⟨nofun, Json.map_fits_empty _⟩
    (fun _ _ old => ⟨old.tools, old.extra⟩) fit.metadata
  components := attach_components (Component.attach_fits maps)
    (Component.fits_of_algorithm (by decide)) fit.components
  services := attach_services (Json.map_fits_empty _) fit.services
  dependencies := attach_dependencies fit.dependencies
  annotations := attach_annotations (annotations_fit annotator) fit.annotations
  extra := Json.map_fits_erase fit.extra "signature"

/-! ### Annotations that cannot be read -/

theorem annotations_of_json {written : Document} (sound : written.Sound) :
    written.toJson.member? "annotations" = written.annotations.map Json.array := by
  have distinct : fieldNames.Nodup := by decide
  rw [toJson, Json.member_of_fields, sound.extra.apart "annotations" (by decide), Option.or_none]
  · rfl
  · exact distinct

theorem unread_of_deep {written : Document} (sound : written.Sound) {annotations : List Json}
    (held : written.annotations = some annotations) {shown : Nat}
    (fit : ∀ annotation ∈ annotations, annotation.fits shown = true)
    (deep : ¬∀ annotation ∈ annotations, annotation.fits 2 = true) :
    ofTree? (written.toJson.treeOn 0) = none := by
  have stands : (written.toJson.treeOn 0).member? "annotations" =
      some (.array (Json.itemTreesOn 2 annotations)) := by
    have member := annotations_of_json sound
    rw [held] at member
    rw [toJson, Json.tree_on_member (by decide)]
    exact congrArg (Option.map (Json.treeOn 1)) member
  have unread : Json.Tree.Reader.list? .any? (.array (Json.itemTreesOn 2 annotations)) = none :=
    (Json.values_eq_map_m _).trans (Json.values_of_deep annotations fit deep)
  rw [Option.eq_none_iff_forall_ne_some]
  intro again read
  obtain ⟨known, opened, _, _, _, _, keptRead⟩ := of_tree_opens read
  rw [Json.member_of_open_record opened (by decide)] at stands
  unfold Json.Tree.Fields.optional? Json.Tree.Fields.withDefault? at keptRead
  rw [stands] at keptRead
  dsimp only [Json.Tree.Reader.option?] at keptRead
  rw [unread] at keptRead
  cases keptRead

/-- A document whose annotations name a tool that cannot be read there is not read again. -/
theorem attach_unread (sound : document.Sound) (fit : document.Fits)
    (deep : document.annotatorFits records = false) :
    ofTree? ((document.attach maps records now).toJson.treeOn 0) = none := by
  simp only [annotatorFits, Bool.or_eq_false_iff, List.isEmpty_eq_false_iff] at deep
  obtain ⟨listed, deep⟩ := deep
  cases found : document.firstTool? with
  | none =>
      rw [found] at deep
      cases deep
  | some tool =>
      -- The tool was read where it stands, so that its numbers are finite and only its depth is
      -- wrong.
      have notDeep : ¬tool.fits 4 = true := by simpa [found] using deep
      have shallow : tool.fits 3 = true := (first_tool_fits fit found).resolve_right notDeep
      have named {depth : Nat} (inside : depth + 2 ≤ Json.Tree.depthLimit) (slice : SliceRecord) :
          (document.annotation now slice).fits depth = true ↔ tool.fits (depth + 2) = true := by
        rw [annotation_fits_iff inside, found, Option.getD_some]
      cases given : records with
      | none => exact absurd (given ▸ rfl) listed
      | some slices =>
          obtain ⟨slice, others, isSome⟩ := List.exists_cons_of_ne_nil listed
          rw [given, Option.getD_some] at isSome
          have each : ∀ annotation ∈ slices.map (document.annotation now),
              annotation.fits 1 = true := by
            intro annotation member
            obtain ⟨own, _, rfl⟩ := List.mem_map.1 member
            exact (named (by decide) own).2 shallow
          apply unread_of_deep (attach_sound sound maps _ now) rfl each
          intro all
          have first : document.annotation now slice ∈ slices.map (document.annotation now) := by
            rw [isSome]
            exact List.mem_cons_self
          exact notDeep ((named (by decide) slice).1 (all _ first))

/-- What is written of a document with evidence is read again, with its numbers read anew, unless
its annotations name a tool that cannot be read there. -/
theorem parse_attach (sound : document.Sound) (fit : document.Fits) (path : String) :
    parse path (document.attach maps records now).toJson.pretty =
      if document.annotatorFits records then .ok (document.attach maps records now).reread
      else .error (.bomUnparsed path "not a bill of materials") := by
  cases annotator : document.annotatorFits records with
  | true =>
      have attachedSound := attach_sound sound maps records now
      have attachedFits : (document.attach maps records now).Fits := attach_fits fit annotator
      exact parse_of_fits attachedSound (json_fits attachedFits) path
  | false =>
      have unread : ofTree? ((document.attach maps records now).toJson.treeOn 0) = none :=
        attach_unread sound fit annotator
      unfold parse
      rw [Json.of_text_of_pretty, Option.bind_some, unread]
      rfl

end Document

end Bom

end BomEvidence
