import BomEvidence.Frame
import BomEvidence.Text.Search

/-!
Bills of materials. A document and its parts have fields for what evidence touches;
every other member of their objects is kept as it was read. A member that is a field
is never among the others.
-/

namespace BomEvidence

namespace Bom

structure Property where
  name : String
  value : Option String
  deriving DecidableEq, Repr

structure Occurrence where
  location : String
  extra : TextMap Json
  deriving DecidableEq, Repr

structure Callstack where
  frames : Option (List Frame)
  extra : TextMap Json
  deriving DecidableEq, Repr, Inhabited

structure Evidence where
  occurrences : Option (List Occurrence)
  callstack : Option Callstack
  extra : TextMap Json
  deriving DecidableEq, Repr, Inhabited

structure Component where
  type : Option String
  name : Option String
  purl : Option String
  reference : Option String
  description : Option String
  properties : Option (List Property)
  evidence : Option Evidence
  tags : Option (List String)
  signature : Option Json
  extra : TextMap Json
  deriving DecidableEq, Repr, Inhabited

structure ServiceEntry where
  name : String
  endpoints : Option (List String)
  authenticated : Option Bool
  trustBoundary : Option Bool
  extra : TextMap Json
  deriving DecidableEq, Repr, Inhabited

structure Dependency where
  reference : String
  dependsOn : Option (List String)
  provides : Option (List String)
  extra : TextMap Json
  deriving DecidableEq, Repr, Inhabited

structure Metadata where
  timestamp : Option String
  tools : Option Json
  extra : TextMap Json
  deriving DecidableEq, Repr, Inhabited

structure Document where
  format : Option String
  specVersion : Option String
  serialNumber : Option String
  version : Option UInt64
  metadata : Option Metadata
  components : List Component
  services : Option (List ServiceEntry)
  dependencies : Option (List Dependency)
  annotations : Option (List Json)
  extra : TextMap Json
  deriving DecidableEq, Repr, Inhabited

def Component.property? (component : Component) (name : String) : Option String := do
  (← (← component.properties).find? fun property => property.name = name).value

def Component.locations (component : Component) : List String :=
  ((component.evidence.bind Evidence.occurrences).getD []).map Occurrence.location

structure SpecVersion where
  major : UInt32
  minor : UInt32
  deriving DecidableEq, Repr

namespace SpecVersion

def number? (source : String) : Option UInt32 := (Text.unsigned? UInt32.size source).map UInt32.ofNat

/-- A version is written as two numbers with a point between them. What follows a
second point does not count, and a second number that is missing is zero. -/
def ofText? (source : String) : Option SpecVersion :=
  match Text.split (Text.trim source) "." with
  | [] => none
  | [major] => do some ⟨← number? major, 0⟩
  | major :: minor :: _ => do some ⟨← number? major, ← number? minor⟩

def atLeast (version least : SpecVersion) : Bool :=
  least.major < version.major || (least.major = version.major && least.minor ≤ version.minor)

/-- The first version that has occurrences and call stacks. -/
def withEvidence : SpecVersion := ⟨1, 5⟩

/-- The first version that has components for cryptographic algorithms. -/
def withAlgorithms : SpecVersion := ⟨1, 6⟩

end SpecVersion

namespace Document

def version? (document : Document) : Option SpecVersion := document.specVersion.bind SpecVersion.ofText?

def firstTool? (document : Document) : Option Json := do
  let tools ← (← document.metadata).tools
  ((tools.member? "components").bind fun components => components.item? 0).or (tools.item? 0)

end Document

end Bom

end BomEvidence
