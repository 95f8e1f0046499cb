import BomEvidence.Language
import BomEvidence.Location
import BomEvidence.Settings.Basic
import BomEvidence.Slice.Load

/-!
What one run reads, collects and writes. A run without an output path writes to its
input. No path may climb to a parent directory.
-/

namespace BomEvidence

structure RunConfig where
  input : String
  output : String
  language : Language
  databasePath : String
  usagesPath : Option String
  dataFlowPath : Option String
  reachablesPath : Option String
  semanticsPath : Option String
  withDataFlow : Bool
  withReachables : Bool
  includeCrypto : Bool
  annotate : Bool
  leastSliceBytes : UInt64
  greatestSliceBytes : UInt64
  cryptoCatalogPath : String
  deriving DecidableEq, Repr

namespace RunConfig

/-- A run by the settings, whose paths are still to be given. A language that is not
known is taken for Java. -/
def ofSettings (settings : EvidenceSettings) : RunConfig where
  input := ""
  output := ""
  language := (Language.ofTag? settings.language).getD .java
  databasePath := settings.databasePath
  usagesPath := none
  dataFlowPath := none
  reachablesPath := none
  semanticsPath := none
  withDataFlow := settings.withDataFlow
  withReachables := settings.withReachables
  includeCrypto := settings.includeCrypto
  annotate := settings.annotate
  leastSliceBytes := settings.leastSliceBytes
  greatestSliceBytes := settings.greatestSliceBytes
  cryptoCatalogPath := settings.cryptoCatalogPath

def outputPath (config : RunConfig) : String :=
  if config.output = "" then config.input else config.output

def limits (config : RunConfig) : SliceLimits := ⟨config.leastSliceBytes, config.greatestSliceBytes⟩

def pathLimit : Nat := 4096

def pathViolation? (field path : String) : Option RunFailure :=
  if pathLimit < path.utf8ByteSize then
    some (.settings field ("path exceeds maximum length " ++ pathLimit.repr))
  else if climbs path then
    some (.settings field ("path '" ++ path ++ "' contains path traversal pattern '..'"))
  else none

def paths (config : RunConfig) : List (String × String) :=
  let optional (field : String) (path : Option String) : List (String × String) :=
    path.toList.map fun path => (field, path)
  [("input", config.input), ("output", config.output), ("db_path", config.databasePath)] ++
    optional "usages_slice_path" config.usagesPath ++
    optional "data_flow_slice_path" config.dataFlowPath ++
    optional "reachables_slice_path" config.reachablesPath ++
    optional "semantics_slice_path" config.semanticsPath ++
    [("crypto_catalog_path", config.cryptoCatalogPath)]

def firstViolation? (config : RunConfig) : Option RunFailure :=
  if config.input = "" then some (.settings "input" "input sbom path must not be empty")
  else if config.greatestSliceBytes = 0 ||
      Settings.sizeLimit < config.greatestSliceBytes.toNat then
    some (.settings "max_slice_bytes" ("must be 1-" ++ Settings.sizeLimit.repr))
  else if config.greatestSliceBytes ≤ config.leastSliceBytes then
    some (.settings "min_slice_bytes" "must be less than max_slice_bytes")
  else config.paths.findSome? fun (field, path) => pathViolation? field path

def validated (config : RunConfig) : Except RunFailure RunConfig :=
  match config.firstViolation? with
  | none => .ok config
  | some cause => .error cause

/-- A configuration with its output path filled in, if it keeps all rules. -/
def build (config : RunConfig) : Except RunFailure RunConfig :=
  { config with output := config.outputPath }.validated

def fieldNames : List String :=
  ["input", "output", "language", "db_path", "usages_slice_path", "data_flow_slice_path",
    "reachables_slice_path", "semantics_slice_path", "with_data_flow", "with_reachables",
    "include_crypto", "annotate", "min_slice_bytes", "max_slice_bytes", "crypto_catalog_path"]

def ofTree? : Json.Tree.Reader RunConfig := fun tree => do
  let fields ← tree.record? fieldNames
  some {
    input := ← fields.required? "input" .text?
    output := ← fields.required? "output" .text?
    language := ← fields.required? "language" Language.ofTree?
    databasePath := ← fields.required? "db_path" .text?
    usagesPath := ← fields.optional? "usages_slice_path" .text?
    dataFlowPath := ← fields.optional? "data_flow_slice_path" .text?
    reachablesPath := ← fields.optional? "reachables_slice_path" .text?
    semanticsPath := ← fields.optional? "semantics_slice_path" .text?
    withDataFlow := ← fields.required? "with_data_flow" .bool?
    withReachables := ← fields.required? "with_reachables" .bool?
    includeCrypto := ← fields.required? "include_crypto" .bool?
    annotate := ← fields.required? "annotate" .bool?
    leastSliceBytes := ← fields.required? "min_slice_bytes" .word?
    greatestSliceBytes := ← fields.required? "max_slice_bytes" .word?
    cryptoCatalogPath := ← fields.required? "crypto_catalog_path" .text? }

def toJson (config : RunConfig) : Json :=
  .object [("annotate", .bool config.annotate),
    ("crypto_catalog_path", .text config.cryptoCatalogPath),
    ("data_flow_slice_path", .ofOption .text config.dataFlowPath),
    ("db_path", .text config.databasePath), ("include_crypto", .bool config.includeCrypto),
    ("input", .text config.input), ("language", config.language.toJson),
    ("max_slice_bytes", .ofWord config.greatestSliceBytes),
    ("min_slice_bytes", .ofWord config.leastSliceBytes), ("output", .text config.output),
    ("reachables_slice_path", .ofOption .text config.reachablesPath),
    ("semantics_slice_path", .ofOption .text config.semanticsPath),
    ("usages_slice_path", .ofOption .text config.usagesPath),
    ("with_data_flow", .bool config.withDataFlow),
    ("with_reachables", .bool config.withReachables)]

end RunConfig

end BomEvidence
