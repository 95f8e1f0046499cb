import BomEvidence.Proofs.Bom.Codec
import BomEvidence.Proofs.Json.Reread

/-!
Documents with their numbers read anew. Only the values that a document keeps in their form can
have floating-point numbers, so that a document that is written and read again is the document
with the numbers of these values read anew.
-/

namespace BomEvidence

open Json (Others)

theorem Frame.reread_json : Json.reread ∘ toJson = toJson := by
  funext frame
  obtain ⟨package, module, function, line, column, file⟩ := frame
  rw [Function.comp_apply, toJson, Json.reread, Json.members_reread_eq]
  cases line <;> cases column <;> simp [Json.reread, Json.ofWord, Json.ofNat, Json.Number.reread]

namespace Bom

theorem Property.reread_json : Json.reread ∘ toJson = toJson := by
  funext property
  have noOthers : (∅ : TextMap Json).mapValues Json.reread = ∅ := rfl
  rw [Function.comp_apply, toJson, Json.reread_of_fields, noOthers]
  simp [Json.reread]

def Occurrence.reread (occurrence : Occurrence) : Occurrence :=
  { occurrence with extra := occurrence.extra.mapValues Json.reread }

theorem Occurrence.reread_json : Json.reread ∘ toJson = toJson ∘ reread := by
  funext occurrence
  rw [Function.comp_apply, toJson, Json.reread_of_fields]
  simp [toJson, reread, Json.reread]

def Callstack.reread (callstack : Callstack) : Callstack :=
  { callstack with extra := callstack.extra.mapValues Json.reread }

theorem Callstack.reread_json : Json.reread ∘ toJson = toJson ∘ reread := by
  funext callstack
  rw [Function.comp_apply, toJson, Json.reread_of_fields]
  simp [toJson, reread, Frame.reread_json]

def Evidence.reread (evidence : Evidence) : Evidence where
  occurrences := evidence.occurrences.map (·.map Occurrence.reread)
  callstack := evidence.callstack.map Callstack.reread
  extra := evidence.extra.mapValues Json.reread

theorem Evidence.reread_json : Json.reread ∘ toJson = toJson ∘ reread := by
  funext evidence
  rw [Function.comp_apply, toJson, Json.reread_of_fields]
  simp [toJson, reread, Occurrence.reread_json, Callstack.reread_json, Json.of_list_comp]

def Component.reread (component : Component) : Component :=
  { component with
    evidence := component.evidence.map Evidence.reread
    signature := component.signature.map Json.reread
    extra := component.extra.mapValues Json.reread }

theorem Component.reread_json : Json.reread ∘ toJson = toJson ∘ reread := by
  funext component
  rw [Function.comp_apply, toJson, Json.reread_of_fields]
  simp [toJson, reread, Property.reread_json, Evidence.reread_json]

def ServiceEntry.reread (entry : ServiceEntry) : ServiceEntry :=
  { entry with extra := entry.extra.mapValues Json.reread }

theorem ServiceEntry.reread_json : Json.reread ∘ toJson = toJson ∘ reread := by
  funext entry
  rw [Function.comp_apply, toJson, Json.reread_of_fields]
  simp [toJson, reread, Json.reread]

def Dependency.reread (dependency : Dependency) : Dependency :=
  { dependency with extra := dependency.extra.mapValues Json.reread }

theorem Dependency.reread_json : Json.reread ∘ toJson = toJson ∘ reread := by
  funext dependency
  rw [Function.comp_apply, toJson, Json.reread_of_fields]
  simp [toJson, reread, Json.reread]

def Metadata.reread (metadata : Metadata) : Metadata :=
  { metadata with
    tools := metadata.tools.map Json.reread
    extra := metadata.extra.mapValues Json.reread }

theorem Metadata.reread_json : Json.reread ∘ toJson = toJson ∘ reread := by
  funext metadata
  rw [Function.comp_apply, toJson, Json.reread_of_fields]
  simp [toJson, reread]

def Document.reread (document : Document) : Document :=
  { document with
    metadata := document.metadata.map Metadata.reread
    components := document.components.map Component.reread
    services := document.services.map (·.map ServiceEntry.reread)
    dependencies := document.dependencies.map (·.map Dependency.reread)
    annotations := document.annotations.map (·.map Json.reread)
    extra := document.extra.mapValues Json.reread }

theorem Document.reread_json : Json.reread ∘ toJson = toJson ∘ reread := by
  funext document
  have components : Option.map Json.reread (if document.components.isEmpty then none
        else some (.ofList Component.toJson document.components)) =
      if (document.components.map Component.reread).isEmpty then none
        else some (.ofList Component.toJson (document.components.map Component.reread)) := by
    cases document.components with
    | nil => rfl
    | cons component rest =>
        have listed := congrFun (Json.reread_comp_list Component.toJson) (component :: rest)
        rw [Component.reread_json, Json.of_list_comp] at listed
        exact congrArg some listed
  rw [Function.comp_apply, toJson, Json.reread_of_fields]
  simp only [List.map_cons, List.map_nil, components]
  simp [toJson, reread, Metadata.reread_json, ServiceEntry.reread_json, Dependency.reread_json,
    Json.of_list_comp]

/-! ### Sound documents stay sound -/

theorem kept_reread (value : Json) (kept : value.Canonical ∧ value ≠ .null) :
    value.reread.Canonical ∧ value.reread ≠ .null :=
  ⟨Json.reread_canonical value kept.1, fun null => kept.2 (Json.reread_null_iff.1 null)⟩

theorem Evidence.reread_sound (evidence : Evidence) (sound : evidence.Sound) :
    evidence.reread.Sound where
  occurrences := Json.optional_list_holds (fun _ => Others.reread) sound.occurrences
  callstack := Json.optional_holds (fun _ => Others.reread) sound.callstack
  extra := sound.extra.reread

theorem Component.reread_sound (component : Component) (sound : component.Sound) :
    component.reread.Sound where
  evidence := Json.optional_holds Evidence.reread_sound sound.evidence
  signature := Json.optional_holds kept_reread sound.signature
  extra := sound.extra.reread

theorem Metadata.reread_sound (metadata : Metadata) (sound : metadata.Sound) :
    metadata.reread.Sound where
  tools := Json.optional_holds kept_reread sound.tools
  extra := sound.extra.reread

theorem Document.reread_sound (document : Document) (sound : document.Sound) :
    document.reread.Sound where
  metadata := Json.optional_holds Metadata.reread_sound sound.metadata
  components := List.forall_mem_map.2 fun component member =>
    Component.reread_sound component (sound.components component member)
  services := Json.optional_list_holds (fun _ => Others.reread) sound.services
  dependencies := Json.optional_list_holds (fun _ => Others.reread) sound.dependencies
  annotations := Json.optional_list_holds Json.reread_canonical sound.annotations
  extra := sound.extra.reread

/-- A sound document that fits is read from its text as the document with its numbers read anew. -/
theorem Document.parse_of_fits {document : Document} (sound : document.Sound)
    (fit : document.toJson.fits 0 = true) (path : String) :
    parse path document.toJson.pretty = .ok document.reread := by
  have read := (Document.reads (reread_sound document sound)).back
  have anew : document.toJson.reread = document.reread.toJson := congrFun reread_json document
  rw [← anew] at read
  unfold parse
  rw [Json.of_text_of_pretty, Json.tree_on_of_fits _ fit, Option.bind_some, read]

end Bom

end BomEvidence
