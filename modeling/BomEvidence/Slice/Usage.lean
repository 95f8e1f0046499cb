import BomEvidence.Json.Decode
import BomEvidence.Location
import BomEvidence.Sorted.TextSet
import BomEvidence.Text.Search

/-!
Usage slices: for each object of the code how its variables are defined, called and
passed on, and the types that the code defines itself.
-/

namespace BomEvidence

structure ObjectRef where
  name : Option String
  typeName : Option String
  resolvedMethod : Option String
  isExternal : Option Bool
  label : Option String
  line : Option UInt64
  column : Option UInt64
  deriving DecidableEq, Repr, Inhabited

structure Call where
  name : Option String
  resolvedMethod : Option String
  parameterTypes : List String
  returnType : Option String
  isExternal : Option Bool
  line : Option UInt64
  column : Option UInt64
  deriving DecidableEq, Repr, Inhabited

structure Field where
  name : Option String
  typeName : Option String
  isExternal : Option Bool
  line : Option UInt64
  deriving DecidableEq, Repr, Inhabited

/-- How one variable is used. -/
structure Usage where
  target : Option ObjectRef
  definedBy : Option ObjectRef
  invokedCalls : List Call
  argumentCalls : List Call
  procedures : List Call
  fields : List Field
  deriving DecidableEq, Repr, Inhabited

/-- A file or method with the usages in it. -/
structure ObjectSlice where
  code : Option String
  fullName : Option String
  signature : Option String
  file : Option String
  line : Option UInt64
  column : Option UInt64
  usages : List Usage
  deriving DecidableEq, Repr, Inhabited

structure UserType where
  name : String
  fields : List Field
  procedures : List Call
  file : Option String
  line : Option UInt64
  deriving DecidableEq, Repr, Inhabited

structure UsageSlice where
  objects : List ObjectSlice
  userTypes : List UserType
  deriving DecidableEq, Repr, Inhabited

/-- The line of the target, or else that of the definition. -/
def Usage.line (usage : Usage) : Option UInt64 :=
  (usage.target.bind ObjectRef.line).or (usage.definedBy.bind ObjectRef.line)

/-- Every call, those that receive the variable last but procedures. -/
def Usage.calls (usage : Usage) : List Call :=
  usage.invokedCalls ++ usage.argumentCalls ++ usage.procedures

def ObjectSlice.hasSourceFile (object : ObjectSlice) : Bool :=
  match object.file with
  | none => false
  | some file => Text.trim file ∉ ["", "<empty>", "<unknown>"]

def UsageSlice.typeNames (slice : UsageSlice) : TextSet :=
  .ofList ((slice.userTypes.map UserType.name).filter (· != ""))

namespace ObjectRef

def fieldNames : List String :=
  ["name", "typeFullName", "resolvedMethod", "isExternal", "label", "lineNumber", "columnNumber"]

def ofTree? : Json.Tree.Reader ObjectRef := fun tree => do
  let fields ← tree.record? fieldNames
  some {
    name := ← fields.optional? "name" .text?
    typeName := ← fields.optional? "typeFullName" .text?
    resolvedMethod := ← fields.optional? "resolvedMethod" .text?
    isExternal := ← fields.optional? "isExternal" .bool?
    label := ← fields.optional? "label" .text?
    line := ← fields.optional? "lineNumber" .word?
    column := ← fields.optional? "columnNumber" .word? }

end ObjectRef

namespace Call

def fieldNames : List String :=
  ["callName", "resolvedMethod", "paramTypes", "returnType", "isExternal", "lineNumber",
    "columnNumber"]

def ofTree? : Json.Tree.Reader Call := fun tree => do
  let fields ← tree.record? fieldNames
  some {
    name := ← fields.optional? "callName" .text?
    resolvedMethod := ← fields.optional? "resolvedMethod" .text?
    parameterTypes := ← fields.listOf? "paramTypes" .text?
    returnType := ← fields.optional? "returnType" .text?
    isExternal := ← fields.optional? "isExternal" .bool?
    line := ← fields.optional? "lineNumber" .word?
    column := ← fields.optional? "columnNumber" .word? }

end Call

namespace Field

def fieldNames : List String := ["name", "typeFullName", "isExternal", "lineNumber"]

def ofTree? : Json.Tree.Reader Field := fun tree => do
  let fields ← tree.record? fieldNames
  some {
    name := ← fields.optional? "name" .text?
    typeName := ← fields.optional? "typeFullName" .text?
    isExternal := ← fields.optional? "isExternal" .bool?
    line := ← fields.optional? "lineNumber" .word? }

end Field

namespace Usage

def fieldNames : List String :=
  ["targetObj", "definedBy", "invokedCalls", "argToCalls", "procedures", "fields"]

def ofTree? : Json.Tree.Reader Usage := fun tree => do
  let fields ← tree.record? fieldNames
  some {
    target := ← fields.optional? "targetObj" ObjectRef.ofTree?
    definedBy := ← fields.optional? "definedBy" ObjectRef.ofTree?
    invokedCalls := ← fields.listOf? "invokedCalls" Call.ofTree?
    argumentCalls := ← fields.listOf? "argToCalls" Call.ofTree?
    procedures := ← fields.listOf? "procedures" Call.ofTree?
    fields := ← fields.listOf? "fields" Field.ofTree? }

end Usage

namespace ObjectSlice

def fieldNames : List String :=
  ["code", "fullName", "signature", "fileName", "lineNumber", "columnNumber", "usages"]

def ofTree? : Json.Tree.Reader ObjectSlice := fun tree => do
  let fields ← tree.record? fieldNames
  some {
    code := ← fields.optional? "code" .text?
    fullName := ← fields.optional? "fullName" .text?
    signature := ← fields.optional? "signature" .text?
    file := ← fields.optional? "fileName" .text?
    line := ← fields.optional? "lineNumber" .word?
    column := ← fields.optional? "columnNumber" .word?
    usages := ← fields.listOf? "usages" Usage.ofTree? }

end ObjectSlice

namespace UserType

def fieldNames : List String := ["name", "fields", "procedures", "fileName", "lineNumber"]

def ofTree? : Json.Tree.Reader UserType := fun tree => do
  let fields ← tree.record? fieldNames
  some {
    name := ← fields.withDefault? "name" .text? ""
    fields := ← fields.listOf? "fields" Field.ofTree?
    procedures := ← fields.listOf? "procedures" Call.ofTree?
    file := ← fields.optional? "fileName" .text?
    line := ← fields.optional? "lineNumber" .word? }

end UserType

namespace UsageSlice

def fieldNames : List String := ["objectSlices", "userDefinedTypes"]

def ofTree? : Json.Tree.Reader UsageSlice := fun tree => do
  let fields ← tree.record? fieldNames
  some {
    objects := ← fields.listOf? "objectSlices" ObjectSlice.ofTree?
    userTypes := ← fields.listOf? "userDefinedTypes" UserType.ofTree? }

end UsageSlice

end BomEvidence
