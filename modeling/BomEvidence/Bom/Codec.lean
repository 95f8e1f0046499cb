import BomEvidence.Bom.Document
import BomEvidence.Failure

/-!
Documents as JSON. Every part is read from an object and written as one; a field that
is absent is left out, and the other members are written as they were read.
-/

namespace BomEvidence

/-- The object of some fields and of other members. A field that is absent is left out. -/
def Json.ofFields (fields : List (String × Option Json)) (extra : TextMap Json) : Json :=
  .ofMap (fields.foldl (fun members (name, value) =>
    match value with
    | some value => members.insert name value
    | none => members) extra)

def Json.Tree.Reader.any? : Json.Tree.Reader Json := Json.Tree.value?

namespace Bom

def textsJson (texts : List String) : Json := .ofList .text texts

namespace Property

def ofTree? : Json.Tree.Reader Property := fun tree => do
  let fields ← tree.record? ["name", "value"]
  some {
    name := ← fields.required? "name" .text?
    value := ← fields.optional? "value" .text? }

def toJson (property : Property) : Json :=
  .ofFields [("name", some (.text property.name)), ("value", property.value.map .text)] ∅

end Property

namespace Occurrence

def ofTree? : Json.Tree.Reader Occurrence := fun tree => do
  let (fields, extra) ← tree.openRecord? ["location"]
  some { location := ← fields.required? "location" .text?, extra }

def toJson (occurrence : Occurrence) : Json :=
  .ofFields [("location", some (.text occurrence.location))] occurrence.extra

end Occurrence

namespace Callstack

def ofTree? : Json.Tree.Reader Callstack := fun tree => do
  let (fields, extra) ← tree.openRecord? ["frames"]
  some { frames := ← fields.optional? "frames" (.list? Frame.ofTree?), extra }

def toJson (callstack : Callstack) : Json :=
  .ofFields [("frames", callstack.frames.map (.ofList Frame.toJson))] callstack.extra

end Callstack

namespace Evidence

def ofTree? : Json.Tree.Reader Evidence := fun tree => do
  let (fields, extra) ← tree.openRecord? ["occurrences", "callstack"]
  some {
    occurrences := ← fields.optional? "occurrences" (.list? Occurrence.ofTree?)
    callstack := ← fields.optional? "callstack" Callstack.ofTree?
    extra }

def toJson (evidence : Evidence) : Json :=
  .ofFields [("occurrences", evidence.occurrences.map (.ofList Occurrence.toJson)),
    ("callstack", evidence.callstack.map Callstack.toJson)] evidence.extra

end Evidence

namespace Component

def fieldNames : List String :=
  ["type", "name", "purl", "bom-ref", "description", "properties", "evidence", "tags", "signature"]

def ofTree? : Json.Tree.Reader Component := fun tree => do
  let (fields, extra) ← tree.openRecord? fieldNames
  some {
    type := ← fields.optional? "type" .text?
    name := ← fields.optional? "name" .text?
    purl := ← fields.optional? "purl" .text?
    reference := ← fields.optional? "bom-ref" .text?
    description := ← fields.optional? "description" .text?
    properties := ← fields.optional? "properties" (.list? Property.ofTree?)
    evidence := ← fields.optional? "evidence" Evidence.ofTree?
    tags := ← fields.optional? "tags" (.list? .text?)
    signature := ← fields.optional? "signature" .any?
    extra }

def toJson (component : Component) : Json :=
  .ofFields [("type", component.type.map .text), ("name", component.name.map .text),
    ("purl", component.purl.map .text), ("bom-ref", component.reference.map .text),
    ("description", component.description.map .text),
    ("properties", component.properties.map (.ofList Property.toJson)),
    ("evidence", component.evidence.map Evidence.toJson),
    ("tags", component.tags.map textsJson), ("signature", component.signature)] component.extra

end Component

namespace ServiceEntry

def fieldNames : List String := ["name", "endpoints", "authenticated", "x-trust-boundary"]

def ofTree? : Json.Tree.Reader ServiceEntry := fun tree => do
  let (fields, extra) ← tree.openRecord? fieldNames
  some {
    name := ← fields.withDefault? "name" .text? ""
    endpoints := ← fields.optional? "endpoints" (.list? .text?)
    authenticated := ← fields.optional? "authenticated" .bool?
    trustBoundary := ← fields.optional? "x-trust-boundary" .bool?
    extra }

def toJson (service : ServiceEntry) : Json :=
  .ofFields [("name", some (.text service.name)), ("endpoints", service.endpoints.map textsJson),
    ("authenticated", service.authenticated.map .bool),
    ("x-trust-boundary", service.trustBoundary.map .bool)] service.extra

end ServiceEntry

namespace Dependency

def ofTree? : Json.Tree.Reader Dependency := fun tree => do
  let (fields, extra) ← tree.openRecord? ["ref", "dependsOn", "provides"]
  some {
    reference := ← fields.withDefault? "ref" .text? ""
    dependsOn := ← fields.optional? "dependsOn" (.list? .text?)
    provides := ← fields.optional? "provides" (.list? .text?)
    extra }

def toJson (dependency : Dependency) : Json :=
  .ofFields [("ref", some (.text dependency.reference)),
    ("dependsOn", dependency.dependsOn.map textsJson),
    ("provides", dependency.provides.map textsJson)] dependency.extra

end Dependency

namespace Metadata

def ofTree? : Json.Tree.Reader Metadata := fun tree => do
  let (fields, extra) ← tree.openRecord? ["timestamp", "tools"]
  some {
    timestamp := ← fields.optional? "timestamp" .text?
    tools := ← fields.optional? "tools" .any?
    extra }

def toJson (metadata : Metadata) : Json :=
  .ofFields [("timestamp", metadata.timestamp.map .text), ("tools", metadata.tools)] metadata.extra

end Metadata

namespace Document

def fieldNames : List String :=
  ["bomFormat", "specVersion", "serialNumber", "version", "metadata", "components", "services",
    "dependencies", "annotations"]

def ofTree? : Json.Tree.Reader Document := fun tree => do
  let (fields, extra) ← tree.openRecord? fieldNames
  some {
    format := ← fields.optional? "bomFormat" .text?
    specVersion := ← fields.optional? "specVersion" .text?
    serialNumber := ← fields.optional? "serialNumber" .text?
    version := ← fields.optional? "version" .word?
    metadata := ← fields.optional? "metadata" Metadata.ofTree?
    components := ← fields.listOf? "components" Component.ofTree?
    services := ← fields.optional? "services" (.list? ServiceEntry.ofTree?)
    dependencies := ← fields.optional? "dependencies" (.list? Dependency.ofTree?)
    annotations := ← fields.optional? "annotations" (.list? .any?)
    extra }

/-- Components are written only where there are some. -/
def toJson (document : Document) : Json :=
  .ofFields [("bomFormat", document.format.map .text),
    ("specVersion", document.specVersion.map .text),
    ("serialNumber", document.serialNumber.map .text), ("version", document.version.map .ofWord),
    ("metadata", document.metadata.map Metadata.toJson),
    ("components", if document.components.isEmpty then none
      else some (.ofList Component.toJson document.components)),
    ("services", document.services.map (.ofList ServiceEntry.toJson)),
    ("dependencies", document.dependencies.map (.ofList Dependency.toJson)),
    ("annotations", document.annotations.map .array)] document.extra

def parse (path source : String) : Except RunFailure Document :=
  match (Json.Tree.ofText? source).bind ofTree? with
  | some document => .ok document
  | none => .error (.bomUnparsed path "not a bill of materials")

def requireVersion (document : Document) : Except RunFailure SpecVersion :=
  match document.version? with
  | some version =>
      if version.atLeast .withEvidence then .ok version
      else .error (.unsupportedVersion (document.specVersion.getD ""))
  | none => .error (.unsupportedVersion (document.specVersion.getD ""))

end Document

end Bom

end BomEvidence
