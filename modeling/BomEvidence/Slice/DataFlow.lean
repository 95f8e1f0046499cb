import BomEvidence.Frame
import BomEvidence.Language

/-!
Data-flow slices: a graph of nodes and the paths along which data moves through it.
-/

namespace BomEvidence

inductive NodeId where
  | number (value : Int)
  | text (value : String)
  deriving DecidableEq, Repr

structure DataFlowNode where
  id : NodeId
  label : Option String
  name : Option String
  fullName : Option String
  typeName : Option String
  code : Option String
  parentPackage : Option String
  parentClass : Option String
  parentMethod : Option String
  parentFile : Option String
  line : Option UInt64
  column : Option UInt64
  deriving DecidableEq, Repr

structure DataFlowSlice where
  nodes : List DataFlowNode
  paths : List (List NodeId)
  deriving DecidableEq, Repr, Inhabited

/-- Whether a node stands for an operator that the analyser made up. -/
def DataFlowNode.isOperator (node : DataFlowNode) : Bool :=
  match node.name with
  | some name => Text.startsWith name "<operator"
  | none => false

/-- The node of a name: of all that are no operators, the last one. -/
def DataFlowSlice.node? (slice : DataFlowSlice) (id : NodeId) : Option DataFlowNode :=
  slice.nodes.reverse.find? fun node => !node.isOperator && node.id = id

/-- Each node with whether it is the one that is found under its name. -/
def DataFlowNode.found : List DataFlowNode → List (DataFlowNode × Bool)
  | [] => []
  | node :: rest =>
      (node, !node.isOperator && rest.all fun later => later.isOperator || later.id ≠ node.id) ::
        found rest

def DataFlowSlice.ids (slice : DataFlowSlice) : List NodeId :=
  ((slice.nodes.filter fun node => !node.isOperator).map DataFlowNode.id).eraseDups

/-- The nodes along a path, without the names that stand for none. -/
def DataFlowSlice.along (slice : DataFlowSlice) (path : List NodeId) : List DataFlowNode :=
  path.filterMap slice.node?

/-- The type by which a node is matched with packages. Where JavaScript code leaves
the type open, it is guessed from a constructor call, a parameter or an identifier,
and else from the name of the node. -/
def DataFlowNode.typeFor (language : Language) (node : DataFlowNode) : Option String :=
  if language.isJavaScript && node.typeName = some "ANY" then
    let guess := node.code.filter fun code =>
      code != "" && (Text.startsWith code "new " || node.label = some "METHOD_PARAMETER_IN" ||
        node.label = some "IDENTIFIER")
    match guess with
    | some code => some (Text.replaceFirst (Text.before code "(") "new " "")
    | none => (node.fullName.filter (· != "")).or node.name
  else node.typeName

/-- The package of the frame of a node. A JavaScript module outside of all packages
is named by the directory in front of its class. -/
def DataFlowNode.package (node : DataFlowNode) : String :=
  let className := node.parentClass.getD ""
  let package := node.parentPackage.getD ""
  if package = "<global>" && Text.contains className "::" then
    let file := Text.before className "::"
    if Text.contains file ".js" then Text.directory file else file
  else package

def DataFlowNode.frame (node : DataFlowNode) : Frame where
  package := node.package
  module := node.parentClass.getD ""
  function := node.parentMethod.getD ""
  line := node.line.filter (0 < ·)
  column := node.column.filter (0 < ·)
  file := node.parentFile.getD ""

namespace NodeId

/-- A name is read from a text or from a signed integer of 64 bits. -/
def ofTree? : Json.Tree.Reader NodeId
  | .text value => some (.text value)
  | .number (.integer value) => if value < 0x8000000000000000 then some (.number value) else none
  | _ => none

def missing : NodeId := .number (-1)

end NodeId

namespace DataFlowNode

def fieldNames : List String :=
  ["id", "label", "name", "fullName", "typeFullName", "code", "parentPackageName",
    "parentClassName", "parentMethodName", "parentFileName", "lineNumber", "columnNumber"]

def ofTree? : Json.Tree.Reader DataFlowNode := fun tree => do
  let fields ← tree.record? fieldNames
  some {
    id := ← fields.withDefault? "id" NodeId.ofTree? .missing
    label := ← fields.optional? "label" .text?
    name := ← fields.optional? "name" .text?
    fullName := ← fields.optional? "fullName" .text?
    typeName := ← fields.optional? "typeFullName" .text?
    code := ← fields.optional? "code" .text?
    parentPackage := ← fields.optional? "parentPackageName" .text?
    parentClass := ← fields.optional? "parentClassName" .text?
    parentMethod := ← fields.optional? "parentMethodName" .text?
    parentFile := ← fields.optional? "parentFileName" .text?
    line := ← fields.optional? "lineNumber" .word?
    column := ← fields.optional? "columnNumber" .word? }

end DataFlowNode

namespace DataFlowSlice

def graph? : Json.Tree.Reader (List DataFlowNode) := fun tree => do
  let fields ← tree.record? ["nodes"]
  fields.listOf? "nodes" DataFlowNode.ofTree?

def ofTree? : Json.Tree.Reader DataFlowSlice := fun tree => do
  let fields ← tree.record? ["graph", "paths"]
  some {
    nodes := ← fields.withDefault? "graph" graph? []
    paths := ← fields.listOf? "paths" (.list? NodeId.ofTree?) }

end DataFlowSlice

end BomEvidence
