import BomEvidence.Json.Decode

/-!
Semantics slices of Swift code: the symbols of each module and the places where
each file mentions them.
-/

namespace BomEvidence

structure ModuleInfo where
  classes : List String
  protocols : List String
  enumerations : List String
  classMethods : TextMap (List String)
  protocolMethods : TextMap (List String)
  deriving DecidableEq, Repr

structure SemanticsSlice where
  /-- The symbols of a module as its build lists them. -/
  buildSymbols : TextMap (List String)
  modules : TextMap ModuleInfo
  /-- The lines of each symbol in each file. -/
  files : TextMap (TextMap (List UInt64))
  deriving DecidableEq, Repr

namespace ModuleInfo

def symbols (info : ModuleInfo) : List String :=
  info.classes ++ info.protocols ++ info.enumerations ++ info.classMethods.values.flatten ++
    info.protocolMethods.values.flatten

def ofTree? : Json.Tree.Reader ModuleInfo := fun tree => do
  let fields ← tree.record?
    ["classes", "protocols", "enums", "classMethods", "protocolMethods"]
  let names : Json.Tree.Reader (TextMap (List String)) := .map? (.list? .text?)
  some {
    classes := ← fields.listOf? "classes" .text?
    protocols := ← fields.listOf? "protocols" .text?
    enumerations := ← fields.listOf? "enums" .text?
    classMethods := ← fields.withDefault? "classMethods" names ∅
    protocolMethods := ← fields.withDefault? "protocolMethods" names ∅ }

end ModuleInfo

namespace SemanticsSlice

def file? : Json.Tree.Reader (TextMap (List UInt64)) := fun tree => do
  let fields ← tree.record? ["symbolLocations"]
  fields.withDefault? "symbolLocations" (.map? (.list? .word?)) ∅

def ofTree? : Json.Tree.Reader SemanticsSlice := fun tree => do
  let fields ← tree.record? ["buildSymbols", "moduleInfos", "fileIndexes"]
  some {
    buildSymbols := ← fields.withDefault? "buildSymbols" (.map? (.list? .text?)) ∅
    modules := ← fields.withDefault? "moduleInfos" (.map? ModuleInfo.ofTree?) ∅
    files := ← fields.withDefault? "fileIndexes" (.map? file?) ∅ }

/-- The symbols of a module, from its build and its declarations. -/
def symbolsOf (slice : SemanticsSlice) (moduleName : String) : List String :=
  (slice.buildSymbols.get? moduleName).getD [] ++
    ((slice.modules.get? moduleName).map ModuleInfo.symbols).getD []

end SemanticsSlice

end BomEvidence
