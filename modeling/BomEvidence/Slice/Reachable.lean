import BomEvidence.Frame
import BomEvidence.Text.Search

/-!
Reachables slices: chains of code that lead from an entry point to a component.
-/

namespace BomEvidence

/-- One step of a chain. The tags are separated by commas. -/
structure ReachableFlow where
  tags : String
  code : String
  parentPackage : Option String
  parentClass : Option String
  parentMethod : Option String
  parentFile : Option String
  line : Option UInt64
  column : Option UInt64
  deriving DecidableEq, Repr, Inhabited

structure ReachableNode where
  purls : List String
  flows : List ReachableFlow
  deriving DecidableEq, Repr, Inhabited

structure ReachablesSlice where
  nodes : List ReachableNode
  deriving DecidableEq, Repr, Inhabited

namespace ReachableFlow

def tagList (flow : ReachableFlow) : List String :=
  ((Text.split flow.tags ",").map Text.trim).filter (· != "")

def isCrypto (flow : ReachableFlow) : Bool := Text.contains flow.tags "crypto"

def generatesCrypto (flow : ReachableFlow) : Bool :=
  Text.contains flow.tags "crypto-generate" || Text.contains flow.code "encrypt" ||
    Text.contains flow.code "decrypt" || Text.contains flow.code "sign"

def taggedPurls (flow : ReachableFlow) : List String :=
  flow.tagList.filter fun tag => Text.startsWith tag "pkg:"

def hasSourceFile (flow : ReachableFlow) : Bool :=
  match flow.parentFile with
  | none => false
  | some file => file != "" && file != "<unknown>"

def frame (flow : ReachableFlow) : Frame where
  package := flow.parentPackage.getD ""
  module := flow.parentClass.getD ""
  function := flow.parentMethod.getD ""
  line := flow.line.filter (0 < ·)
  column := flow.column.filter (0 < ·)
  file := flow.parentFile.getD ""

def fieldNames : List String :=
  ["tags", "code", "parentPackageName", "parentClassName", "parentMethodName", "parentFileName",
    "lineNumber", "columnNumber"]

def ofTree? : Json.Tree.Reader ReachableFlow := fun tree => do
  let fields ← tree.record? fieldNames
  some {
    tags := ← fields.withDefault? "tags" .text? ""
    code := ← fields.withDefault? "code" .text? ""
    parentPackage := ← fields.optional? "parentPackageName" .text?
    parentClass := ← fields.optional? "parentClassName" .text?
    parentMethod := ← fields.optional? "parentMethodName" .text?
    parentFile := ← fields.optional? "parentFileName" .text?
    line := ← fields.optional? "lineNumber" .word?
    column := ← fields.optional? "columnNumber" .word? }

end ReachableFlow

namespace ReachableNode

def ofTree? : Json.Tree.Reader ReachableNode := fun tree => do
  let fields ← tree.record? ["purls", "flows"]
  some {
    purls := ← fields.listOf? "purls" .text?
    flows := ← fields.listOf? "flows" ReachableFlow.ofTree? }

end ReachableNode

namespace ReachablesSlice

def ofTree? : Json.Tree.Reader ReachablesSlice := fun tree => do
  let fields ← tree.record? ["reachables"]
  some { nodes := ← fields.listOf? "reachables" ReachableNode.ofTree? }

end ReachablesSlice

end BomEvidence
