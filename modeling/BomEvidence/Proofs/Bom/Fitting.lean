import BomEvidence.Proofs.Bom.Sound
import BomEvidence.Proofs.Json.Fitting

/-!
Documents that were read from a text fit into it: what a document keeps in its form stands where it
stood, and its own records are never deep.
-/

namespace BomEvidence

open Json (MapFits OptionFits)

theorem Frame.json_fits {depth : Nat} (inside : depth + 1 ≤ Json.Tree.depthLimit) (frame : Frame) :
    frame.toJson.fits depth = true := by
  apply Json.object_fits_iff.2 ⟨inside, ?_⟩
  cases frame.line <;> cases frame.column <;> simp [Json.text_fits, Json.word_fits]

namespace Bom

section Parts

variable {depth : Nat} {source : Json.Tree}

theorem Property.json_fits (inside : depth + 1 ≤ Json.Tree.depthLimit) (property : Property) :
    property.toJson.fits depth = true := by
  apply Json.of_fields_fits inside ?_ (Json.map_fits_empty _)
  have name : OptionFits (depth + 1) (some (.text property.name)) :=
    Json.option_text_fits (some property.name)
  simp [name, Json.option_text_fits]

def Occurrence.Fits (depth : Nat) (occurrence : Occurrence) : Prop :=
  MapFits (depth + 1) occurrence.extra

theorem Occurrence.fits_of_tree {occurrence : Occurrence} (fit : source.fits depth = true)
    (read : ofTree? source = some occurrence) : occurrence.Fits depth := by
  obtain ⟨known, opened⟩ := of_tree_opens read
  exact (Json.open_record_fits opened fit).2

theorem Occurrence.json_fits {occurrence : Occurrence} (inside : depth + 1 ≤ Json.Tree.depthLimit)
    (fit : occurrence.Fits depth) : occurrence.toJson.fits depth = true := by
  apply Json.of_fields_fits inside ?_ fit
  have location : OptionFits (depth + 1) (some (.text occurrence.location)) :=
    Json.option_text_fits (some occurrence.location)
  simp [location]

def Callstack.Fits (depth : Nat) (callstack : Callstack) : Prop :=
  MapFits (depth + 1) callstack.extra

theorem Callstack.fits_of_tree {callstack : Callstack} (fit : source.fits depth = true)
    (read : ofTree? source = some callstack) : callstack.Fits depth := by
  obtain ⟨known, opened, _⟩ := of_tree_opens read
  exact (Json.open_record_fits opened fit).2

theorem Callstack.json_fits {callstack : Callstack} (inside : depth + 3 ≤ Json.Tree.depthLimit)
    (fit : callstack.Fits depth) : callstack.toJson.fits depth = true := by
  apply Json.of_fields_fits (by omega) ?_ fit
  have frames : OptionFits (depth + 1) (callstack.frames.map (.ofList Frame.toJson)) :=
    Json.option_list_fits (by omega) fun _ _ frame _ => frame.json_fits inside
  simp [frames]

def Evidence.Fits (depth : Nat) (evidence : Evidence) : Prop :=
  evidence.Extras (MapFits (depth + 3)) (MapFits (depth + 2)) (MapFits (depth + 1))

theorem Evidence.fits_of_tree {evidence : Evidence} (fit : source.fits depth = true)
    (read : ofTree? source = some evidence) : evidence.Fits depth := by
  obtain ⟨known, opened, occurrences, callstack⟩ := of_tree_opens read
  obtain ⟨fields, others⟩ := Json.open_record_fits opened fit
  constructor
  · exact Json.fits_of_optional_list fields occurrences Occurrence.fits_of_tree
  · exact Json.fits_of_optional fields callstack Callstack.fits_of_tree
  · exact others

theorem Evidence.json_fits {evidence : Evidence} (inside : depth + 4 ≤ Json.Tree.depthLimit)
    (fit : evidence.Fits depth) : evidence.toJson.fits depth = true := by
  apply Json.of_fields_fits (by omega) ?_ fit.extra
  have occurrences : OptionFits (depth + 1) (evidence.occurrences.map (.ofList Occurrence.toJson)) :=
    Json.option_list_fits (by omega) fun present isPresent occurrence member =>
      Occurrence.json_fits (by omega) (fit.occurrences present isPresent occurrence member)
  have callstack : OptionFits (depth + 1) (evidence.callstack.map Callstack.toJson) :=
    Json.option_map_fits fun present isPresent =>
      Callstack.json_fits (by omega) (fit.callstack present isPresent)
  simp [occurrences, callstack]

structure Component.Fits (depth : Nat) (component : Component) : Prop where
  evidence : ∀ evidence, component.evidence = some evidence → evidence.Fits (depth + 1)
  signature : OptionFits (depth + 1) component.signature
  extra : MapFits (depth + 1) component.extra

theorem Component.fits_of_tree {component : Component} (fit : source.fits depth = true)
    (read : ofTree? source = some component) : component.Fits depth := by
  obtain ⟨known, opened, _, evidence, signature⟩ := of_tree_opens read
  obtain ⟨fields, others⟩ := Json.open_record_fits opened fit
  constructor
  · exact Json.fits_of_optional fields evidence Evidence.fits_of_tree
  · exact Json.fits_of_optional_any fields signature
  · exact others

theorem Component.json_fits {component : Component} (inside : depth + 5 ≤ Json.Tree.depthLimit)
    (fit : component.Fits depth) : component.toJson.fits depth = true := by
  apply Json.of_fields_fits (by omega) ?_ fit.extra
  have properties : OptionFits (depth + 1) (component.properties.map (.ofList Property.toJson)) :=
    Json.option_list_fits (by omega) fun _ _ property _ => property.json_fits (by omega)
  have evidence : OptionFits (depth + 1) (component.evidence.map Evidence.toJson) :=
    Json.option_map_fits fun present isPresent =>
      Evidence.json_fits (by omega) (fit.evidence present isPresent)
  have tags : OptionFits (depth + 1) (component.tags.map textsJson) :=
    Json.option_texts_fit (by omega) component.tags
  simp [properties, evidence, tags, fit.signature, Json.option_text_fits]

def ServiceEntry.Fits (depth : Nat) (entry : ServiceEntry) : Prop := MapFits (depth + 1) entry.extra

theorem ServiceEntry.fits_of_tree {entry : ServiceEntry} (fit : source.fits depth = true)
    (read : ofTree? source = some entry) : entry.Fits depth := by
  obtain ⟨known, opened⟩ := of_tree_opens read
  exact (Json.open_record_fits opened fit).2

theorem ServiceEntry.json_fits {entry : ServiceEntry} (inside : depth + 2 ≤ Json.Tree.depthLimit)
    (fit : entry.Fits depth) : entry.toJson.fits depth = true := by
  apply Json.of_fields_fits (by omega) ?_ fit
  have name : OptionFits (depth + 1) (some (.text entry.name)) :=
    Json.option_text_fits (some entry.name)
  have endpoints : OptionFits (depth + 1) (entry.endpoints.map textsJson) :=
    Json.option_texts_fit inside entry.endpoints
  simp [name, endpoints, Json.option_bool_fits]

def Dependency.Fits (depth : Nat) (dependency : Dependency) : Prop :=
  MapFits (depth + 1) dependency.extra

theorem Dependency.fits_of_tree {dependency : Dependency} (fit : source.fits depth = true)
    (read : ofTree? source = some dependency) : dependency.Fits depth := by
  obtain ⟨known, opened⟩ := of_tree_opens read
  exact (Json.open_record_fits opened fit).2

theorem Dependency.json_fits {dependency : Dependency} (inside : depth + 2 ≤ Json.Tree.depthLimit)
    (fit : dependency.Fits depth) : dependency.toJson.fits depth = true := by
  apply Json.of_fields_fits (by omega) ?_ fit
  have reference : OptionFits (depth + 1) (some (.text dependency.reference)) :=
    Json.option_text_fits (some dependency.reference)
  have texts (texts : Option (List String)) : OptionFits (depth + 1) (texts.map textsJson) :=
    Json.option_texts_fit inside texts
  simp [reference, texts]

structure Metadata.Fits (depth : Nat) (metadata : Metadata) : Prop where
  tools : OptionFits (depth + 1) metadata.tools
  extra : MapFits (depth + 1) metadata.extra

theorem Metadata.fits_of_tree {metadata : Metadata} (fit : source.fits depth = true)
    (read : ofTree? source = some metadata) : metadata.Fits depth := by
  obtain ⟨known, opened, tools⟩ := of_tree_opens read
  obtain ⟨fields, others⟩ := Json.open_record_fits opened fit
  exact ⟨Json.fits_of_optional_any fields tools, others⟩

theorem Metadata.json_fits {metadata : Metadata} (inside : depth + 1 ≤ Json.Tree.depthLimit)
    (fit : metadata.Fits depth) : metadata.toJson.fits depth = true := by
  apply Json.of_fields_fits inside ?_ fit.extra
  simp [fit.tools, Json.option_text_fits]

end Parts

/-! ### Documents -/

structure Document.Fits (document : Document) : Prop where
  metadata : ∀ metadata, document.metadata = some metadata → metadata.Fits 1
  components : ∀ component ∈ document.components, component.Fits 2
  services : ∀ services, document.services = some services → ∀ entry ∈ services, entry.Fits 2
  dependencies : ∀ dependencies, document.dependencies = some dependencies →
    ∀ dependency ∈ dependencies, dependency.Fits 2
  annotations : ∀ annotations, document.annotations = some annotations →
    ∀ annotation ∈ annotations, annotation.fits 2 = true
  extra : MapFits 1 document.extra

theorem Document.fits_of_tree {source : Json.Tree} {document : Document}
    (fit : source.fits 0 = true) (read : ofTree? source = some document) : document.Fits := by
  obtain ⟨known, opened, metadata, components, services, dependencies, annotations⟩ :=
    of_tree_opens read
  obtain ⟨fields, others⟩ := Json.open_record_fits opened fit
  constructor
  · exact Json.fits_of_optional fields metadata Metadata.fits_of_tree
  · exact Json.fits_of_list_of fields components Component.fits_of_tree
  · exact Json.fits_of_optional_list fields services ServiceEntry.fits_of_tree
  · exact Json.fits_of_optional_list fields dependencies Dependency.fits_of_tree
  · exact Json.fits_of_optional_list fields annotations (Json.value_fits _)
  · exact others

theorem Document.json_fits {document : Document} (fit : document.Fits) :
    document.toJson.fits 0 = true := by
  apply Json.of_fields_fits (by decide) ?_ fit.extra
  have metadata : OptionFits 1 (document.metadata.map Metadata.toJson) :=
    Json.option_map_fits fun present isPresent =>
      Metadata.json_fits (by decide) (fit.metadata present isPresent)
  have components : OptionFits 1 (if document.components.isEmpty then none
      else some (.ofList Component.toJson document.components)) := by
    split
    · exact nofun
    · intro listed held
      cases held
      apply Json.of_list_fits (by decide)
      intro component member
      exact Component.json_fits (by decide) (fit.components component member)
  have services : OptionFits 1 (document.services.map (.ofList ServiceEntry.toJson)) :=
    Json.option_list_fits (by decide) fun present isPresent entry member =>
      ServiceEntry.json_fits (by decide) (fit.services present isPresent entry member)
  have dependencies : OptionFits 1 (document.dependencies.map (.ofList Dependency.toJson)) :=
    Json.option_list_fits (by decide) fun present isPresent dependency member =>
      Dependency.json_fits (by decide) (fit.dependencies present isPresent dependency member)
  have annotations : OptionFits 1 (document.annotations.map .array) :=
    Json.option_map_fits fun present isPresent =>
      Json.array_fits_iff.2 ⟨by decide, fit.annotations present isPresent⟩
  simp [metadata, components, services, dependencies, annotations, Json.option_text_fits,
    Json.option_word_fits, -List.isEmpty_iff]

end Bom

end BomEvidence
