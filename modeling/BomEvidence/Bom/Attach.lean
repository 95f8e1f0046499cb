import BomEvidence.Bom.Document
import BomEvidence.Evidence.Maps
import BomEvidence.Instant
import BomEvidence.Metrics

/-!
Attaching evidence to a document. Components get their places, call stacks and tags;
services and algorithms are merged with those that the document lists; the document
becomes a new version without signatures.
-/

namespace BomEvidence

structure EvidenceUpdate where
  locations : TextSet
  frames : Option (List Frame)
  deriving DecidableEq, Repr

structure SliceRecord where
  kind : SliceKind
  path : String
  text : String
  deriving DecidableEq, Repr

structure AttachSummary where
  occurrences : Nat
  callstacks : Nat
  services : Nat
  algorithms : Nat
  providers : Nat
  deriving DecidableEq, Repr, Inhabited

def AttachSummary.hasEvidence (summary : AttachSummary) : Bool :=
  0 < summary.occurrences || 0 < summary.callstacks || 0 < summary.services

namespace EvidenceUpdate

def places (update : EvidenceUpdate) : List String := update.locations.toList.filter (· != "")

def isEmpty (update : EvidenceUpdate) : Bool := update.places.isEmpty && update.frames.isNone

/-- The evidence after an update. New places take the place of all old ones, and new
frames that of the old ones; the rest is kept. -/
def mergeInto (update : EvidenceUpdate) (existing : Option Bom.Evidence) : Option Bom.Evidence :=
  if update.isEmpty then existing
  else
    let evidence := existing.getD default
    some { evidence with
      occurrences :=
        if update.places.isEmpty then evidence.occurrences
        else some (update.places.map fun place => ⟨place, ∅⟩)
      callstack :=
        match update.frames with
        | none => evidence.callstack
        | some frames => some { evidence.callstack.getD default with frames := some frames } }

/-- What maps hold for a package. An empty call stack is none. -/
def ofMaps (maps : EvidenceMaps) (purl : String) : EvidenceUpdate where
  locations := (maps.locations.get? purl).getD ∅
  frames := ((maps.callstacks.get? purl).bind pickFrames?).filter (!·.isEmpty)

end EvidenceUpdate

def mergedTexts (existing : Option (List String)) (added : List String) : List String :=
  ((TextSet.ofList (existing.getD [])).insertAll added).toList

namespace Bom

def providedBy? (maps : EvidenceMaps) (purl : String) : Option TextSet :=
  (maps.providers.get? purl).filter (!·.isEmpty)

namespace Component

def providerTags : List String := ["crypto", "crypto-generate"]

/-- A component with the evidence of its package, and without its signature. -/
def attach (maps : EvidenceMaps) (component : Component) : Component :=
  let unsigned := { component with signature := none }
  match component.purl with
  | none => unsigned
  | some purl =>
      { unsigned with
        evidence := (EvidenceUpdate.ofMaps maps purl).mergeInto component.evidence
        tags :=
          if (providedBy? maps purl).isSome then some (mergedTexts component.tags providerTags)
          else component.tags }

/-- The component of an algorithm. Formats without such components list it as data. -/
def ofAlgorithm (hasAlgorithms : Bool) (algorithm : Algorithm) : Component :=
  let properties := Json.object ([("assetType", .text "algorithm")] ++
    (algorithm.oid.map fun oid => ("oid", Json.text oid)).toList)
  { (default : Component) with
    type := some (if hasAlgorithms then "cryptographic-asset" else "data")
    name := some algorithm.name
    reference := some algorithm.reference
    description := some (algorithm.description.getD "")
    extra := if hasAlgorithms then TextMap.insert ∅ "cryptoProperties" properties else ∅ }

end Component

namespace ServiceEntry

/-- A service with what was detected of it. A flag that is set stays set. -/
def merge (entry : ServiceEntry) (service : Service) : ServiceEntry :=
  let endpoints := mergedTexts entry.endpoints service.endpoints.toList
  { entry with
    endpoints := if endpoints.isEmpty then none else some endpoints
    authenticated :=
      if service.authenticated = some true then some true
      else entry.authenticated.or service.authenticated
    trustBoundary :=
      if service.trustBoundary = some true then some true else entry.trustBoundary }

/-- Merges a detected service with the first one of its name, or adds it to the end. -/
def mergeNamed (name : String) (service : Service) : List ServiceEntry → List ServiceEntry
  | [] => [({ (default : ServiceEntry) with name }).merge service]
  | entry :: rest =>
      if entry.name = name then entry.merge service :: rest
      else entry :: mergeNamed name service rest

def mergeAll (services : ServiceMap) (entries : List ServiceEntry) : List ServiceEntry :=
  services.entries.foldl (fun entries (name, service) => mergeNamed name service entries) entries

end ServiceEntry

def Dependency.attach (maps : EvidenceMaps) (dependency : Dependency) : Dependency :=
  match providedBy? maps dependency.reference with
  | none => dependency
  | some references =>
      { dependency with provides := some (mergedTexts dependency.provides references.toList) }

namespace Document

def newAlgorithms (maps : EvidenceMaps) (document : Document) : List Algorithm :=
  maps.algorithms.values.filter fun algorithm =>
    some algorithm.reference ∉ document.components.map Component.reference

def attachedComponents (maps : EvidenceMaps) (document : Document) : List Component :=
  let hasAlgorithms := document.version?.any (·.atLeast .withAlgorithms)
  document.components.map (Component.attach maps) ++
    (document.newAlgorithms maps).map (Component.ofAlgorithm hasAlgorithms)

/-- The component that signs annotations where the document names no tool. -/
def ownComponent : Json :=
  .object [("name", .text "purlscope-evidence"), ("type", .text "application"),
    ("version", .text "0.1.0")]

def annotation (document : Document) (now : Instant) (slice : SliceRecord) : Json :=
  .object [("annotator", .object [("component", document.firstTool?.getD ownComponent)]),
    ("subjects", textsOf document.serialNumber), ("text", .text slice.text),
    ("timestamp", .text now.text)]
where
  textsOf (serialNumber : Option String) : Json := .ofList .text serialNumber.toList

/-- A document with evidence. Annotations are replaced only where slices are given. -/
def attach (document : Document) (maps : EvidenceMaps) (annotations : Option (List SliceRecord))
    (now : Instant) : Document :=
  { document with
    version := some (document.version.getD 1 + 1)
    metadata := some { document.metadata.getD default with timestamp := some now.text }
    components := document.attachedComponents maps
    services :=
      if maps.services.isEmpty then document.services
      else some (ServiceEntry.mergeAll maps.services (document.services.getD []))
    dependencies := document.dependencies.map (·.map (Dependency.attach maps))
    annotations :=
      match annotations with
      | none => document.annotations
      | some slices => some (slices.map (document.annotation now))
    extra := document.extra.erase "signature" }

def updates (maps : EvidenceMaps) (document : Document) : List EvidenceUpdate :=
  (document.components.filterMap Component.purl).map (EvidenceUpdate.ofMaps maps)

def attachSummary (document : Document) (maps : EvidenceMaps) : AttachSummary where
  occurrences := (document.updates maps).countP fun update => !update.locations.isEmpty
  callstacks := (document.updates maps).countP fun update => update.frames.isSome
  services := maps.services.size
  algorithms := (document.newAlgorithms maps).length
  providers := (document.components.filterMap Component.purl).countP fun purl =>
    (providedBy? maps purl).isSome

def attachTally (document : Document) (maps : EvidenceMaps) : Tally :=
  let places := Tally.sumOf ((document.updates maps).map fun update => update.locations.size)
  ((Tally.empty.add .occurrence places).add .callstack (document.attachSummary maps).callstacks).add
    .service (document.attachSummary maps).services

end Document

end Bom

end BomEvidence
