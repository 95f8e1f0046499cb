import BomEvidence.Bom.Attach
import BomEvidence.Proofs.Json.Record

/-!
Documents are read back as they were written. Every part that was read is sound: its other
members are apart from its fields and are read back themselves. A sound part that is written
is the part that is read from what was written.
-/

namespace BomEvidence

open Json (Others Reads)

theorem Frame.reads (frame : Frame) : Reads ofTree? toJson frame := by
  obtain ⟨package, module, function, line, column, file⟩ := frame
  let members : List (String × Json) :=
    (column.map fun column => ("column", Json.ofWord column)).toList ++
      [("fullFilename", .text file), ("function", .text function)] ++
      (line.map fun line => ("line", Json.ofWord line)).toList ++
      [("module", .text module), ("package", .text package)]
  have opened : (Json.object members).tree.record? fieldNames = some (Json.memberTrees members) := by
    apply Json.record_of_members
    · cases line <;> cases column <;> simp [members, fieldNames]
    · cases line <;> cases column <;> simp [members]
  have text (name value : String)
      (held : (Json.memberTrees members).lookup name = some (Json.text value).tree) :
      Json.Tree.Fields.withDefault? (Json.memberTrees members) name .text? "" = some value :=
    Json.with_default_of_lookup held (Json.reads_text value).back ""
  have packageRead := text "package" package (by cases line <;> cases column <;> rfl)
  have moduleRead := text "module" module (by cases line <;> cases column <;> rfl)
  have functionRead := text "function" function (by cases line <;> cases column <;> rfl)
  have fileRead := text "fullFilename" file (by cases line <;> cases column <;> rfl)
  have lineHeld : (Json.memberTrees members).lookup "line" =
      (line.map Json.ofWord).map Json.tree := by cases line <;> cases column <;> rfl
  have columnHeld : (Json.memberTrees members).lookup "column" =
      (column.map Json.ofWord).map Json.tree := by cases line <;> cases column <;> rfl
  have lineRead := Json.optional_of_lookup lineHeld fun word _ => Json.reads_word word
  have columnRead := Json.optional_of_lookup columnHeld fun word _ => Json.reads_word word
  constructor
  · unfold ofTree? toJson
    dsimp only
    rw [opened]
    simp [packageRead, moduleRead, functionRead, lineRead, columnRead, fileRead]
  · simp [toJson, Json.tree]

namespace Bom

theorem Property.reads (property : Property) : Reads ofTree? toJson property := by
  obtain ⟨known, opened, held⟩ : ∃ known, property.toJson.tree.record? ["name", "value"] =
      some known ∧ _ := Json.record_of_fields rfl (by decide)
  have name : known.required? "name" .text? = some property.name :=
    Json.required_of_lookup (held "name" (by decide)) (Json.reads_text _).back
  have value : known.optional? "value" .text? = some property.value :=
    Json.optional_of_lookup (held "value" (by decide)) fun text _ => Json.reads_text text
  constructor
  · unfold ofTree?
    rw [opened]
    simp [name, value]
  · exact Json.of_fields_present _ _

/-! ### Evidence -/

def Occurrence.Sound (occurrence : Occurrence) : Prop := Others ["location"] occurrence.extra

theorem Occurrence.of_tree_opens {source : Json.Tree} {occurrence : Occurrence}
    (read : ofTree? source = some occurrence) :
    ∃ known, source.openRecord? ["location"] = some (known, occurrence.extra) := by
  simp only [ofTree?, Option.bind_eq_bind, Option.bind_eq_some_iff] at read
  obtain ⟨⟨known, extra⟩, opened, _, _, made⟩ := read
  cases made
  exact ⟨known, opened⟩

theorem Occurrence.sound_of_tree {source : Json.Tree} {occurrence : Occurrence}
    (read : ofTree? source = some occurrence) : occurrence.Sound := by
  obtain ⟨known, opened⟩ := of_tree_opens read
  exact Json.others_of_open_record opened

theorem Occurrence.reads {occurrence : Occurrence} (sound : occurrence.Sound) :
    Reads ofTree? toJson occurrence := by
  obtain ⟨known, opened, held⟩ : ∃ known, occurrence.toJson.tree.openRecord? ["location"] =
      some (known, occurrence.extra) ∧ _ := Json.open_record_of_fields rfl (by decide) sound
  have location : known.required? "location" .text? = some occurrence.location :=
    Json.required_of_lookup (held "location" (by decide)) (Json.reads_text _).back
  constructor
  · unfold ofTree?
    rw [opened]
    simp [location]
  · exact Json.of_fields_present _ _

def Callstack.Sound (callstack : Callstack) : Prop := Others ["frames"] callstack.extra

theorem Callstack.of_tree_opens {source : Json.Tree} {callstack : Callstack}
    (read : ofTree? source = some callstack) : ∃ known,
      source.openRecord? ["frames"] = some (known, callstack.extra) ∧
      known.optional? "frames" (.list? Frame.ofTree?) = some callstack.frames := by
  simp only [ofTree?, Option.bind_eq_bind, Option.bind_eq_some_iff] at read
  obtain ⟨⟨known, extra⟩, opened, frames, framesRead, made⟩ := read
  cases made
  exact ⟨known, opened, framesRead⟩

theorem Callstack.sound_of_tree {source : Json.Tree} {callstack : Callstack}
    (read : ofTree? source = some callstack) : callstack.Sound := by
  obtain ⟨known, opened, _⟩ := of_tree_opens read
  exact Json.others_of_open_record opened

theorem Callstack.reads {callstack : Callstack} (sound : callstack.Sound) :
    Reads ofTree? toJson callstack := by
  obtain ⟨known, opened, held⟩ : ∃ known, callstack.toJson.tree.openRecord? ["frames"] =
      some (known, callstack.extra) ∧ _ := Json.open_record_of_fields rfl (by decide) sound
  have frames : known.optional? "frames" (.list? Frame.ofTree?) = some callstack.frames :=
    Json.optional_of_lookup (held "frames" (by decide)) fun frames _ =>
      Json.reads_list fun frame _ => frame.reads.back
  constructor
  · unfold ofTree?
    rw [opened]
    simp [frames]
  · exact Json.of_fields_present _ _

structure Evidence.Sound (evidence : Evidence) : Prop where
  occurrences : ∀ occurrences, evidence.occurrences = some occurrences →
    ∀ occurrence ∈ occurrences, occurrence.Sound
  callstack : ∀ callstack, evidence.callstack = some callstack → callstack.Sound
  extra : Others ["occurrences", "callstack"] evidence.extra

theorem Evidence.of_tree_opens {source : Json.Tree} {evidence : Evidence}
    (read : ofTree? source = some evidence) : ∃ known,
      source.openRecord? ["occurrences", "callstack"] = some (known, evidence.extra) ∧
      known.optional? "occurrences" (.list? Occurrence.ofTree?) = some evidence.occurrences ∧
      known.optional? "callstack" Callstack.ofTree? = some evidence.callstack := by
  simp only [ofTree?, Option.bind_eq_bind, Option.bind_eq_some_iff] at read
  obtain ⟨⟨known, extra⟩, opened, occurrences, occurrencesRead, callstack, callstackRead, made⟩ :=
    read
  cases made
  exact ⟨known, opened, occurrencesRead, callstackRead⟩

theorem Evidence.sound_of_tree {source : Json.Tree} {evidence : Evidence}
    (read : ofTree? source = some evidence) : evidence.Sound := by
  obtain ⟨known, opened, occurrences, callstack⟩ := of_tree_opens read
  constructor
  · exact Json.holds_of_optional_list occurrences fun _ _ => Occurrence.sound_of_tree
  · exact Json.holds_of_optional callstack fun _ => Callstack.sound_of_tree
  · exact Json.others_of_open_record opened

theorem Evidence.reads {evidence : Evidence} (sound : evidence.Sound) :
    Reads ofTree? toJson evidence := by
  obtain ⟨known, opened, held⟩ : ∃ known,
      evidence.toJson.tree.openRecord? ["occurrences", "callstack"] =
        some (known, evidence.extra) ∧ _ := Json.open_record_of_fields rfl (by decide) sound.extra
  have occurrences : known.optional? "occurrences" (.list? Occurrence.ofTree?) =
      some evidence.occurrences :=
    Json.optional_of_lookup (held "occurrences" (by decide)) fun occurrences present =>
      Json.reads_list fun occurrence member =>
        (Occurrence.reads (sound.occurrences occurrences present occurrence member)).back
  have callstack : known.optional? "callstack" Callstack.ofTree? = some evidence.callstack :=
    Json.optional_of_lookup (held "callstack" (by decide)) fun callstack present =>
      Callstack.reads (sound.callstack callstack present)
  constructor
  · unfold ofTree?
    rw [opened]
    simp [occurrences, callstack]
  · exact Json.of_fields_present _ _

/-! ### Parts of a document -/

structure Component.Sound (component : Component) : Prop where
  evidence : ∀ evidence, component.evidence = some evidence → evidence.Sound
  signature : ∀ signature, component.signature = some signature →
    signature.Canonical ∧ signature ≠ .null
  extra : Others fieldNames component.extra

theorem Component.of_tree_opens {source : Json.Tree} {component : Component}
    (read : ofTree? source = some component) : ∃ known,
      source.openRecord? fieldNames = some (known, component.extra) ∧
      known.optional? "properties" (.list? Property.ofTree?) = some component.properties ∧
      known.optional? "evidence" Evidence.ofTree? = some component.evidence ∧
      known.optional? "signature" .any? = some component.signature := by
  simp only [ofTree?, Option.bind_eq_bind, Option.bind_eq_some_iff] at read
  obtain ⟨⟨known, extra⟩, opened, _, _, _, _, _, _, _, _, _, _, properties, propertiesRead,
    evidence, evidenceRead, _, _, signature, signatureRead, made⟩ := read
  cases made
  exact ⟨known, opened, propertiesRead, evidenceRead, signatureRead⟩

theorem Component.sound_of_tree {source : Json.Tree} {component : Component}
    (read : ofTree? source = some component) : component.Sound := by
  obtain ⟨known, opened, _, evidence, signature⟩ := of_tree_opens read
  constructor
  · exact Json.holds_of_optional evidence fun _ => Evidence.sound_of_tree
  · exact Json.kept_of_optional_any signature
  · exact Json.others_of_open_record opened

theorem Component.reads {component : Component} (sound : component.Sound) :
    Reads ofTree? toJson component := by
  obtain ⟨known, opened, held⟩ : ∃ known, component.toJson.tree.openRecord? fieldNames =
      some (known, component.extra) ∧ _ := Json.open_record_of_fields rfl (by decide) sound.extra
  have type : known.optional? "type" .text? = some component.type :=
    Json.optional_of_lookup (held "type" (by decide)) fun text _ => Json.reads_text text
  have name : known.optional? "name" .text? = some component.name :=
    Json.optional_of_lookup (held "name" (by decide)) fun text _ => Json.reads_text text
  have purl : known.optional? "purl" .text? = some component.purl :=
    Json.optional_of_lookup (held "purl" (by decide)) fun text _ => Json.reads_text text
  have reference : known.optional? "bom-ref" .text? = some component.reference :=
    Json.optional_of_lookup (held "bom-ref" (by decide)) fun text _ => Json.reads_text text
  have description : known.optional? "description" .text? = some component.description :=
    Json.optional_of_lookup (held "description" (by decide)) fun text _ => Json.reads_text text
  have properties : known.optional? "properties" (.list? Property.ofTree?) =
      some component.properties :=
    Json.optional_of_lookup (held "properties" (by decide)) fun properties _ =>
      Json.reads_list fun property _ => property.reads.back
  have evidence : known.optional? "evidence" Evidence.ofTree? = some component.evidence :=
    Json.optional_of_lookup (held "evidence" (by decide)) fun evidence present =>
      Evidence.reads (sound.evidence evidence present)
  have tags : known.optional? "tags" (.list? .text?) = some component.tags :=
    Json.optional_of_lookup (held "tags" (by decide)) fun texts _ => Json.reads_texts texts
  have signature : known.optional? "signature" .any? = some component.signature :=
    Json.optional_any_of_lookup (held "signature" (by decide)) sound.signature
  constructor
  · unfold ofTree?
    rw [opened]
    simp [type, name, purl, reference, description, properties, evidence, tags, signature]
  · exact Json.of_fields_present _ _

def ServiceEntry.Sound (entry : ServiceEntry) : Prop := Others fieldNames entry.extra

theorem ServiceEntry.of_tree_opens {source : Json.Tree} {entry : ServiceEntry}
    (read : ofTree? source = some entry) :
    ∃ known, source.openRecord? fieldNames = some (known, entry.extra) := by
  simp only [ofTree?, Option.bind_eq_bind, Option.bind_eq_some_iff] at read
  obtain ⟨⟨known, extra⟩, opened, _, _, _, _, _, _, _, _, made⟩ := read
  cases made
  exact ⟨known, opened⟩

theorem ServiceEntry.sound_of_tree {source : Json.Tree} {entry : ServiceEntry}
    (read : ofTree? source = some entry) : entry.Sound := by
  obtain ⟨known, opened⟩ := of_tree_opens read
  exact Json.others_of_open_record opened

theorem ServiceEntry.reads {entry : ServiceEntry} (sound : entry.Sound) :
    Reads ofTree? toJson entry := by
  obtain ⟨known, opened, held⟩ : ∃ known, entry.toJson.tree.openRecord? fieldNames =
      some (known, entry.extra) ∧ _ := Json.open_record_of_fields rfl (by decide) sound
  have name : known.withDefault? "name" .text? "" = some entry.name :=
    Json.with_default_of_lookup (held "name" (by decide)) (Json.reads_text _).back ""
  have endpoints : known.optional? "endpoints" (.list? .text?) = some entry.endpoints :=
    Json.optional_of_lookup (held "endpoints" (by decide)) fun texts _ => Json.reads_texts texts
  have authenticated : known.optional? "authenticated" .bool? = some entry.authenticated :=
    Json.optional_of_lookup (held "authenticated" (by decide)) fun value _ => Json.reads_bool value
  have trustBoundary : known.optional? "x-trust-boundary" .bool? = some entry.trustBoundary :=
    Json.optional_of_lookup (held "x-trust-boundary" (by decide)) fun value _ =>
      Json.reads_bool value
  constructor
  · unfold ofTree?
    rw [opened]
    simp [name, endpoints, authenticated, trustBoundary]
  · exact Json.of_fields_present _ _

def Dependency.Sound (dependency : Dependency) : Prop :=
  Others ["ref", "dependsOn", "provides"] dependency.extra

theorem Dependency.of_tree_opens {source : Json.Tree} {dependency : Dependency}
    (read : ofTree? source = some dependency) :
    ∃ known, source.openRecord? ["ref", "dependsOn", "provides"] =
      some (known, dependency.extra) := by
  simp only [ofTree?, Option.bind_eq_bind, Option.bind_eq_some_iff] at read
  obtain ⟨⟨known, extra⟩, opened, _, _, _, _, _, _, made⟩ := read
  cases made
  exact ⟨known, opened⟩

theorem Dependency.sound_of_tree {source : Json.Tree} {dependency : Dependency}
    (read : ofTree? source = some dependency) : dependency.Sound := by
  obtain ⟨known, opened⟩ := of_tree_opens read
  exact Json.others_of_open_record opened

theorem Dependency.reads {dependency : Dependency} (sound : dependency.Sound) :
    Reads ofTree? toJson dependency := by
  obtain ⟨known, opened, held⟩ : ∃ known,
      dependency.toJson.tree.openRecord? ["ref", "dependsOn", "provides"] =
        some (known, dependency.extra) ∧ _ := Json.open_record_of_fields rfl (by decide) sound
  have reference : known.withDefault? "ref" .text? "" = some dependency.reference :=
    Json.with_default_of_lookup (held "ref" (by decide)) (Json.reads_text _).back ""
  have dependsOn : known.optional? "dependsOn" (.list? .text?) = some dependency.dependsOn :=
    Json.optional_of_lookup (held "dependsOn" (by decide)) fun texts _ => Json.reads_texts texts
  have provides : known.optional? "provides" (.list? .text?) = some dependency.provides :=
    Json.optional_of_lookup (held "provides" (by decide)) fun texts _ => Json.reads_texts texts
  constructor
  · unfold ofTree?
    rw [opened]
    simp [reference, dependsOn, provides]
  · exact Json.of_fields_present _ _

structure Metadata.Sound (metadata : Metadata) : Prop where
  tools : ∀ tools, metadata.tools = some tools → tools.Canonical ∧ tools ≠ .null
  extra : Others ["timestamp", "tools"] metadata.extra

theorem Metadata.of_tree_opens {source : Json.Tree} {metadata : Metadata}
    (read : ofTree? source = some metadata) : ∃ known,
      source.openRecord? ["timestamp", "tools"] = some (known, metadata.extra) ∧
      known.optional? "tools" .any? = some metadata.tools := by
  simp only [ofTree?, Option.bind_eq_bind, Option.bind_eq_some_iff] at read
  obtain ⟨⟨known, extra⟩, opened, _, _, tools, toolsRead, made⟩ := read
  cases made
  exact ⟨known, opened, toolsRead⟩

theorem Metadata.sound_of_tree {source : Json.Tree} {metadata : Metadata}
    (read : ofTree? source = some metadata) : metadata.Sound := by
  obtain ⟨known, opened, tools⟩ := of_tree_opens read
  exact ⟨Json.kept_of_optional_any tools, Json.others_of_open_record opened⟩

theorem Metadata.reads {metadata : Metadata} (sound : metadata.Sound) :
    Reads ofTree? toJson metadata := by
  obtain ⟨known, opened, held⟩ : ∃ known,
      metadata.toJson.tree.openRecord? ["timestamp", "tools"] =
        some (known, metadata.extra) ∧ _ := Json.open_record_of_fields rfl (by decide) sound.extra
  have timestamp : known.optional? "timestamp" .text? = some metadata.timestamp :=
    Json.optional_of_lookup (held "timestamp" (by decide)) fun text _ => Json.reads_text text
  have tools : known.optional? "tools" .any? = some metadata.tools :=
    Json.optional_any_of_lookup (held "tools" (by decide)) sound.tools
  constructor
  · unfold ofTree?
    rw [opened]
    simp [timestamp, tools]
  · exact Json.of_fields_present _ _

/-! ### Documents -/

structure Document.Sound (document : Document) : Prop where
  metadata : ∀ metadata, document.metadata = some metadata → metadata.Sound
  components : ∀ component ∈ document.components, component.Sound
  services : ∀ services, document.services = some services → ∀ entry ∈ services, entry.Sound
  dependencies : ∀ dependencies, document.dependencies = some dependencies →
    ∀ dependency ∈ dependencies, dependency.Sound
  annotations : ∀ annotations, document.annotations = some annotations →
    ∀ annotation ∈ annotations, annotation.Canonical
  extra : Others fieldNames document.extra

theorem Document.of_tree_opens {source : Json.Tree} {document : Document}
    (read : ofTree? source = some document) : ∃ known,
      source.openRecord? fieldNames = some (known, document.extra) ∧
      known.optional? "metadata" Metadata.ofTree? = some document.metadata ∧
      known.listOf? "components" Component.ofTree? = some document.components ∧
      known.optional? "services" (.list? ServiceEntry.ofTree?) = some document.services ∧
      known.optional? "dependencies" (.list? Dependency.ofTree?) = some document.dependencies ∧
      known.optional? "annotations" (.list? .any?) = some document.annotations := by
  simp only [ofTree?, Option.bind_eq_bind, Option.bind_eq_some_iff] at read
  obtain ⟨⟨known, extra⟩, opened, _, _, _, _, _, _, _, _, metadata, metadataRead, components,
    componentsRead, services, servicesRead, dependencies, dependenciesRead, annotations,
    annotationsRead, made⟩ := read
  cases made
  exact ⟨known, opened, metadataRead, componentsRead, servicesRead, dependenciesRead,
    annotationsRead⟩

theorem Document.sound_of_tree {source : Json.Tree} {document : Document}
    (read : ofTree? source = some document) : document.Sound := by
  obtain ⟨known, opened, metadata, components, services, dependencies, annotations⟩ :=
    of_tree_opens read
  constructor
  · exact Json.holds_of_optional metadata fun _ => Metadata.sound_of_tree
  · exact Json.holds_of_list_of components fun _ _ => Component.sound_of_tree
  · exact Json.holds_of_optional_list services fun _ _ => ServiceEntry.sound_of_tree
  · exact Json.holds_of_optional_list dependencies fun _ _ => Dependency.sound_of_tree
  · exact Json.holds_of_optional_list annotations fun _ _ => Json.canonical_of_value _
  · exact Json.others_of_open_record opened

theorem Document.reads {document : Document} (sound : document.Sound) :
    Reads ofTree? toJson document := by
  obtain ⟨known, opened, held⟩ : ∃ known, document.toJson.tree.openRecord? fieldNames =
      some (known, document.extra) ∧ _ := Json.open_record_of_fields rfl (by decide) sound.extra
  have format : known.optional? "bomFormat" .text? = some document.format :=
    Json.optional_of_lookup (held "bomFormat" (by decide)) fun text _ => Json.reads_text text
  have specVersion : known.optional? "specVersion" .text? = some document.specVersion :=
    Json.optional_of_lookup (held "specVersion" (by decide)) fun text _ => Json.reads_text text
  have serialNumber : known.optional? "serialNumber" .text? = some document.serialNumber :=
    Json.optional_of_lookup (held "serialNumber" (by decide)) fun text _ => Json.reads_text text
  have version : known.optional? "version" .word? = some document.version :=
    Json.optional_of_lookup (held "version" (by decide)) fun word _ => Json.reads_word word
  have metadata : known.optional? "metadata" Metadata.ofTree? = some document.metadata :=
    Json.optional_of_lookup (held "metadata" (by decide)) fun metadata present =>
      Metadata.reads (sound.metadata metadata present)
  have components : known.listOf? "components" Component.ofTree? = some document.components := by
    have lookup : known.lookup "components" = Option.map Json.tree
        (if document.components.isEmpty then none
          else some (.ofList Component.toJson document.components)) := held "components" (by decide)
    by_cases empty : document.components.isEmpty = true
    · rw [if_pos empty] at lookup
      rw [Json.Tree.Fields.listOf?, Json.Tree.Fields.withDefault?, lookup, List.isEmpty_iff.1 empty]
      rfl
    · rw [if_neg empty] at lookup
      exact Json.with_default_of_lookup lookup (Json.reads_list fun component member =>
        (Component.reads (sound.components component member)).back).back []
  have services : known.optional? "services" (.list? ServiceEntry.ofTree?) =
      some document.services :=
    Json.optional_of_lookup (held "services" (by decide)) fun services present =>
      Json.reads_list fun entry member =>
        (ServiceEntry.reads (sound.services services present entry member)).back
  have dependencies : known.optional? "dependencies" (.list? Dependency.ofTree?) =
      some document.dependencies :=
    Json.optional_of_lookup (held "dependencies" (by decide)) fun dependencies present =>
      Json.reads_list fun dependency member =>
        (Dependency.reads (sound.dependencies dependencies present dependency member)).back
  have annotations : known.optional? "annotations" (.list? .any?) = some document.annotations :=
    Json.optional_of_lookup (held "annotations" (by decide)) fun annotations present => by
      have listed : Reads (.list? .any?) (.ofList id) annotations :=
        Json.reads_list fun annotation member =>
          sound.annotations annotations present annotation member
      exact ⟨by simpa [Json.ofList] using listed.back, by simp [Json.tree]⟩
  constructor
  · unfold ofTree?
    rw [opened]
    simp [format, specVersion, serialNumber, version, metadata, components, services, dependencies,
      annotations]
  · exact Json.of_fields_present _ _

end Bom

end BomEvidence
