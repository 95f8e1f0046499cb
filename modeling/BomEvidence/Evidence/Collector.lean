import BomEvidence.Bom.Document
import BomEvidence.Evidence.Maps
import BomEvidence.Evidence.Mention
import BomEvidence.Resolution.Resolver
import BomEvidence.Slice.DataFlow
import BomEvidence.Slice.Reachable
import BomEvidence.Slice.Semantics

/-!
Collecting evidence from slices. A collector resolves the symbols of slices, one after
the other, and adds to its maps what each slice shows. Types that the analysed code
defines are known from its usage slices on and are not looked up.
-/

namespace BomEvidence

structure Collector where
  resolver : Resolver
  detector : Option Detector
  userTypes : TextSet
  maps : EvidenceMaps
  /-- What was counted besides the work of the resolver. -/
  detections : Tally

namespace Collector

def new (resolver : Resolver) (detector : Option Detector) : Collector :=
  ⟨resolver, detector, ∅, ∅, ∅⟩

def language (collector : Collector) : Language := collector.resolver.language

def tally (collector : Collector) : Tally := collector.resolver.tally ++ collector.detections

def addLocations (collector : Collector) (places : TextMap TextSet) : Collector :=
  { collector with
    maps := collector.maps.addAllLocations
      (places.entries.map fun (purl, set) => (purl, set.toList)) }

/-! ### Usages -/

def requests (language : Language) (userTypes : TextSet) (mentions : List Mention) : List String :=
  (Mention.symbols mentions).toList.filter fun symbol =>
    !Symbol.isFilterable language userTypes symbol

def placeIn (file : String) (mentions : List Mention) (symbol : String) : Option String :=
  (Mention.line? mentions symbol).map (location file)

/-- Resolves a symbol and gives its packages the place where it stands, if that is known. -/
def addSymbol (place : String → Option String) (collector : Collector) (symbol : String) :
    Collector :=
  let (resolution, resolver) := collector.resolver.resolve symbol
  { collector with
    resolver
    maps := resolution.purls.toList.foldl
      (fun maps purl => maps.addLocations purl (place symbol).toList) collector.maps }

def addObject (collector : Collector) (object : ObjectSlice) : Collector :=
  let mentions := Mention.ofObject collector.language collector.userTypes object
  let located := (requests collector.language collector.userTypes mentions).foldl
    (addSymbol (placeIn (object.file.getD "") mentions)) collector
  { located with
    maps.services := Service.detectUsages collector.language object located.maps.services }

def addUsages (collector : Collector) (slice : UsageSlice) : Collector :=
  let knowing := { collector with userTypes := collector.userTypes ∪ slice.typeNames }
  let added := (slice.objects.filter ObjectSlice.hasSourceFile).foldl addObject knowing
  { added with
    maps.services :=
      Service.detectTypes collector.language slice.userTypes added.maps.services }

/-! ### Semantics -/

/-- The places of the symbols of a module, with one entry for each symbol of a file. -/
def modulePlaces (slice : SemanticsSlice) (moduleName : String) : List (List String) :=
  slice.files.entries.flatMap fun (file, symbols) =>
    (symbols.entries.filter fun (symbol, _) => symbol ∈ slice.symbolsOf moduleName).map
      fun (_, lines) => lines.map (location file)

def componentPlaces (slice : SemanticsSlice) (component : Bom.Component) :
    List (String × List String) :=
  match component.name, component.purl with
  | some name, some purl => (modulePlaces slice name).map fun places => (purl, places)
  | _, _ => []

/-- Adds a semantics slice, whose modules are the components of a document. -/
def addSemantics (collector : Collector) (components : List Bom.Component)
    (slice : SemanticsSlice) : Collector :=
  { collector with
    maps := collector.maps.addAllLocations (components.flatMap (componentPlaces slice)) }

/-! ### Data flow -/

/-- The symbols that a node asks for: its type, and the class of its type. -/
def nodeRequests (language : Language) (userTypes : TextSet) (node : DataFlowNode) : List String :=
  match node.typeFor language with
  | none => []
  | some type =>
      if Symbol.isFilterable language userTypes type then []
      else type :: ((Symbol.className? language type).filter (· != type)).toList

/-- Adds the stack of a path for every package of its nodes. -/
def addPath (slice : DataFlowSlice) (collector : Collector) (path : List NodeId) : Collector :=
  let nodes := slice.along path
  let (purls, resolver) := collector.resolver.resolveAll
    (nodes.flatMap (nodeRequests collector.language collector.userTypes))
  { collector with
    resolver
    maps := purls.toList.foldl
      (fun maps purl => maps.addStack (nodes.map DataFlowNode.frame) purl) collector.maps }

def addDataFlow (collector : Collector) (slice : DataFlowSlice) : Collector :=
  slice.paths.foldl (addPath slice) collector

/-! ### Reachables -/

/-- The code that is searched for algorithms: that of every flow from the first one on
that speaks of cryptography, with a line break in front of each. -/
def cryptoCode (node : ReachableNode) : String :=
  Text.join "" ((((node.flows.dropWhile fun flow => !flow.isCrypto).map
    ReachableFlow.code).filter (· != "")).map fun code => "\n" ++ code)

def providersOf (node : ReachableNode) : TextSet :=
  .ofList ((node.flows.filter ReachableFlow.generatesCrypto).flatMap ReachableFlow.taggedPurls)

def reachedBy (node : ReachableNode) : TextSet := .ofList (node.purls.filter (· != ""))

def stackOf (node : ReachableNode) : List Frame :=
  (node.flows.filter ReachableFlow.hasSourceFile).map ReachableFlow.frame

/-- What a detector finds in a chain. Nothing is asked where there is no code. -/
def detect (detector : Option Detector) (node : ReachableNode) : Except Failure (List Algorithm) :=
  match detector with
  | none => .ok []
  | some detector => if cryptoCode node = "" then .ok [] else detector.detect (cryptoCode node)

def linkAlgorithm (providers : TextSet) (maps : EvidenceMaps) (algorithm : Algorithm) :
    EvidenceMaps :=
  (providers.toList.foldl (fun maps purl => maps.addProvided [algorithm.reference] purl)
    maps).addAlgorithm algorithm

/-- Adds the stack, the providers and the algorithms of a chain. A detection that fails
finds nothing. -/
def addChain (collector : Collector) (node : ReachableNode) : Collector :=
  let stacked := (reachedBy node).toList.foldl
    (fun maps purl => maps.addStack (stackOf node) purl) collector.maps
  let known := (providersOf node).toList.foldl
    (fun maps purl => maps.addProvided [] purl) stacked
  match detect collector.detector node with
  | .ok algorithms =>
      { collector with
        maps := algorithms.foldl (linkAlgorithm (providersOf node)) known
        detections := collector.detections.add .algorithm algorithms.length }
  | .error _ =>
      { collector with
        maps := known
        detections := collector.detections.increment .detectorFailure }

def addReachables (collector : Collector) (slice : ReachablesSlice) : Collector :=
  slice.nodes.foldl addChain collector

end Collector

end BomEvidence
