import BomEvidence.Bom.Codec
import BomEvidence.Crypto.Catalog
import BomEvidence.Evidence.Collector
import BomEvidence.Evidence.Seed
import BomEvidence.Run.Slices

/-!
A run: reads a document, collects evidence for it and writes it anew. What goes wrong
with slices, the namespace index or the detector only leaves evidence out; a document
that cannot be read or written stops the run.
-/

namespace BomEvidence

structure PostProcessor where
  name : String
  process : Json → Except Failure Json

def PostProcessor.identity : PostProcessor := ⟨"identity", fun document => .ok document⟩

/-- What a run works with besides its files. An index or a detector that is given takes
the place of the configured one. -/
structure Collaborators where
  index : Option NamespaceIndex
  detector : Option Detector
  postProcessor : PostProcessor

def Collaborators.none : Collaborators := ⟨.none, .none, .identity⟩

inductive RunStatus where
  /-- Evidence was attached to the document. -/
  | attached
  | noSlices
  /-- There were slices, and no evidence. -/
  | unresolved
  deriving DecidableEq, Repr

def RunStatus.name : RunStatus → String
  | .attached => "attached"
  | .noSlices => "no_slices"
  | .unresolved => "unresolved"

structure RunReport where
  status : RunStatus
  summary : AttachSummary
  maps : EvidenceMaps
  slices : List (SliceKind × LoadStatus)
  queries : Nat
  hits : Nat
  output : String
  deriving Repr

structure RunResult where
  outcome : Except RunFailure RunReport
  files : FileTree
  tally : Tally

namespace Run

def readDocument (config : RunConfig) (files : FileTree) : Except RunFailure Bom.Document :=
  match files.readText config.input with
  | .error failure => .error (.bomUnread config.input failure.message)
  | .ok source => do
      let document ← Bom.Document.parse config.input source
      let _ ← document.requireVersion
      return document

/-- The index of a run and the files after it was opened. A database that cannot be
opened is no index. -/
def chooseIndex (config : RunConfig) (given : Option NamespaceIndex) (files : FileTree) :
    Option NamespaceIndex × FileTree :=
  match given with
  | some index => (some index, files)
  | none =>
      if config.databasePath = "" then (none, files)
      else
        match files.openDatabase config.databasePath with
        | .ok (catalog, files) => (some catalog.databaseIndex, files)
        | .error _ => (none, files)

/-- The detector of a run. A catalog that cannot be read is replaced by the known
algorithms. -/
def chooseDetector (config : RunConfig) (given : Option Detector) (files : FileTree) :
    Option Detector :=
  if !config.includeCrypto then none
  else
    match given with
    | some detector => some detector
    | none =>
        if config.cryptoCatalogPath = "" then some AlgorithmCatalog.builtin.detector
        else
          match AlgorithmCatalog.ofFile files config.cryptoCatalogPath with
          | .ok catalog => some catalog.detector
          | .error _ => some AlgorithmCatalog.builtin.detector

def addSlice {Slice : Type} (add : Collector → Slice → Collector)
    (slice : Option (LoadedSlice Slice)) (collector : Collector) : Collector :=
  match slice with
  | some slice => add collector slice.data
  | none => collector

def collect (collector : Collector) (components : List Bom.Component) (slices : RunSlices) :
    Collector :=
  let reached := addSlice Collector.addReachables (RunSlices.loaded? slices.reachables) collector
  let used := addSlice Collector.addUsages slices.usages.slice? reached
  let named := addSlice (fun collector slice => collector.addSemantics components slice)
    (RunSlices.loaded? slices.semantics) used
  addSlice Collector.addDataFlow (RunSlices.loaded? slices.dataFlow) named

def statusOf (slices : RunSlices) (summary : AttachSummary) : RunStatus :=
  if !slices.anyLoaded then .noSlices
  else if summary.hasEvidence then .attached
  else .unresolved

def writeDocument (path : String) (postProcessor : PostProcessor) (document : Bom.Document)
    (files : FileTree) : Except RunFailure FileTree :=
  match postProcessor.process document.toJson with
  | .error failure =>
      .error (.bomUnwritten path
        ("post-processor '" ++ postProcessor.name ++ "' failed: " ++ failure.message))
  | .ok processed =>
      match files.writeText path processed.pretty with
      | .error failure => .error (.bomUnwritten path failure.message)
      | .ok files => .ok files

def execute (config : RunConfig) (given : Collaborators) (now : Instant) (files : FileTree) :
    RunResult :=
  match readDocument config files with
  | .error failure => ⟨.error failure, files, ∅⟩
  | .ok document =>
      let seed := Seed.ofComponents config.language document.components
      let (index, files) := chooseIndex config given.index files
      let detector := chooseDetector config given.detector files
      let slices := RunSlices.load config (!document.components.isEmpty) files
      let collector := collect
        ((Collector.new (.new config.language seed.imports index) detector).addLocations
          seed.locations)
        document.components slices
      let records := if config.annotate && slices.anyLoaded then some slices.records else none
      let summary := document.attachSummary collector.maps
      let tally := slices.tally ++ collector.tally ++ document.attachTally collector.maps
      let output := config.outputPath
      match writeDocument output given.postProcessor
          (document.attach collector.maps records now) files with
      | .error failure => ⟨.error failure, files, tally⟩
      | .ok files =>
          ⟨.ok {
              status := statusOf slices summary
              summary
              maps := collector.maps
              slices := slices.outcomes
              queries := collector.resolver.queries
              hits := collector.resolver.cache.hits
              output }, files, tally⟩

end Run

end BomEvidence
