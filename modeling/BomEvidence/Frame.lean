import BomEvidence.Json.Decode

/-!
Frames of call stacks, and the choice of one stack out of several.
-/

namespace BomEvidence

structure Frame where
  package : String
  module : String
  function : String
  line : Option UInt64
  column : Option UInt64
  file : String
  deriving DecidableEq, Repr, Inhabited

namespace Frame

def fieldNames : List String := ["package", "module", "function", "line", "column", "fullFilename"]

def ofTree? : Json.Tree.Reader Frame := fun tree => do
  let fields ← tree.record? fieldNames
  some {
    package := ← fields.withDefault? "package" .text? ""
    module := ← fields.withDefault? "module" .text? ""
    function := ← fields.withDefault? "function" .text? ""
    line := ← fields.optional? "line" .word?
    column := ← fields.optional? "column" .word?
    file := ← fields.withDefault? "fullFilename" .text? "" }

/-- A frame is written without the places that it does not know. -/
def toJson (frame : Frame) : Json :=
  .object ((frame.column.map fun column => ("column", Json.ofWord column)).toList ++
    [("fullFilename", .text frame.file), ("function", .text frame.function)] ++
    (frame.line.map fun line => ("line", Json.ofWord line)).toList ++
    [("module", .text frame.module), ("package", .text frame.package)])

end Frame

/-- Chooses a stack: the first one, unless between the first and the last one stands
a stack of more than two frames; then the last of these. -/
def pickFrames? : List (List Frame) → Option (List Frame)
  | [] => none
  | first :: others =>
      some ((others.dropLast.filter fun stack => 2 < stack.length).getLast?.getD first)

end BomEvidence
