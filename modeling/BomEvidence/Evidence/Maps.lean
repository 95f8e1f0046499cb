import BomEvidence.Crypto.Algorithm
import BomEvidence.Frame
import BomEvidence.Service

/-!
What slices show about packages: the places where each is used, the call stacks that
reach it, the algorithms that it provides, and the services of the analysed code.
-/

namespace BomEvidence

structure EvidenceMaps where
  /-- The places where each package is used. -/
  locations : TextMap TextSet
  /-- The call stacks that reach each package, in the order in which they were found. -/
  callstacks : TextMap (List (List Frame))
  /-- The references of the algorithms that each package provides. -/
  providers : TextMap TextSet
  /-- The algorithms by their references. -/
  algorithms : TextMap Algorithm
  services : ServiceMap
  deriving DecidableEq, Repr

namespace EvidenceMaps

def empty : EvidenceMaps := ⟨∅, ∅, ∅, ∅, ∅⟩

instance : EmptyCollection EvidenceMaps := ⟨empty⟩
instance : Inhabited EvidenceMaps := ⟨empty⟩

def hasEvidence (maps : EvidenceMaps) : Bool :=
  maps.locations.values.any (fun places => !places.isEmpty) || !maps.callstacks.isEmpty ||
    !maps.services.isEmpty

/-- Adds places of a package, which is known from then on even without a place. -/
def addLocations (maps : EvidenceMaps) (purl : String) (places : List String) : EvidenceMaps :=
  { maps with locations := maps.locations.alter purl fun held => (held.getD ∅).insertAll places }

def addStack (maps : EvidenceMaps) (stack : List Frame) (purl : String) : EvidenceMaps :=
  { maps with callstacks := maps.callstacks.alter purl fun held => held.getD [] ++ [stack] }

def addProvided (maps : EvidenceMaps) (references : List String) (purl : String) : EvidenceMaps :=
  { maps with providers := maps.providers.alter purl fun held => (held.getD ∅).insertAll references }

/-- Adds an algorithm, unless its reference stands for one already. -/
def addAlgorithm (maps : EvidenceMaps) (algorithm : Algorithm) : EvidenceMaps :=
  { maps with algorithms := maps.algorithms.insertNew algorithm.reference algorithm }

def addAllLocations (maps : EvidenceMaps) (places : List (String × List String)) : EvidenceMaps :=
  places.foldl (fun maps entry => maps.addLocations entry.1 entry.2) maps

/-! ### Written maps -/

-- A file of maps has the members of a record in the order of its fields; in a document they are
-- ordered by their names.

def frameJson (frame : Frame) : Json :=
  .object ([("package", .text frame.package), ("module", .text frame.module),
      ("function", .text frame.function)] ++
    (frame.line.map fun line => ("line", Json.ofWord line)).toList ++
    (frame.column.map fun column => ("column", Json.ofWord column)).toList ++
    [("fullFilename", .text frame.file)])

def serviceJson (service : Service) : Json :=
  .object [("endpoints", .ofList .text service.endpoints.toList),
    ("authenticated", .ofOption .bool service.authenticated),
    ("trustBoundary", .ofOption .bool service.trustBoundary)]

def toJson (maps : EvidenceMaps) : Json :=
  let ofSets (sets : TextMap TextSet) : Json :=
    .ofMap (sets.mapValues fun set => .ofList .text set.toList)
  .object [("purlLocations", ofSets maps.locations),
    ("dataFlowFrames", .ofMap (maps.callstacks.mapValues (.ofList (.ofList frameJson)))),
    ("cryptoGeneratePurls", ofSets maps.providers),
    ("cryptoComponents", .ofMap (maps.algorithms.mapValues Algorithm.toJson)),
    ("services", .ofMap (maps.services.mapValues serviceJson))]

end EvidenceMaps

end BomEvidence
