import BomEvidence.Failure
import BomEvidence.Json.Value
import BomEvidence.Text.Case
import BomEvidence.Text.Search

/-!
The settings of the program and the rules that they have to keep.
-/

namespace BomEvidence

structure LogSettings where
  level : String
  format : String
  deriving DecidableEq, Repr

structure EvidenceSettings where
  language : String
  databasePath : String
  withDataFlow : Bool
  withReachables : Bool
  includeCrypto : Bool
  annotate : Bool
  leastSliceBytes : UInt64
  greatestSliceBytes : UInt64
  cryptoCatalogPath : String
  deriving DecidableEq, Repr

structure Settings where
  general : LogSettings
  evidence : EvidenceSettings
  deriving DecidableEq, Repr

namespace Settings

def defaultLog : LogSettings := ⟨"info", "pretty"⟩

def defaultEvidence : EvidenceSettings where
  language := "java"
  databasePath := ""
  withDataFlow := false
  withReachables := false
  includeCrypto := false
  annotate := false
  leastSliceBytes := 1024
  greatestSliceBytes := 512 * 1024 * 1024
  cryptoCatalogPath := ""

def standard : Settings := ⟨defaultLog, defaultEvidence⟩

def logLevels : List String := ["trace", "debug", "info", "warn", "error"]

def logFormats : List String := ["json", "pretty"]

def languageTags : List String :=
  ["java", "jar", "javascript", "js", "typescript", "ts", "python", "py", "php", "ruby", "rb", "c",
    "cpp", "c++", "swift"]

/-- The greatest size that can be allowed for slices, two gibibytes. -/
def sizeLimit : Nat := 2 * 1024 * 1024 * 1024

def oneOf (values : List String) : String := "must be one of: " ++ Text.join ", " values

def firstViolation? (settings : Settings) : Option SettingsFailure :=
  let evidence := settings.evidence
  if settings.general.level ∉ logLevels then
    some (.invalidValue "general.log_level" (oneOf logLevels))
  else if settings.general.format ∉ logFormats then
    some (.invalidValue "general.log_format" (oneOf logFormats))
  else if Text.lower evidence.language ∉ languageTags then
    some (.invalidValue "evidence.language" (oneOf languageTags))
  else if evidence.greatestSliceBytes = 0 || sizeLimit < evidence.greatestSliceBytes.toNat then
    some (.invalidValue "evidence.max_slice_bytes" ("must be 1-" ++ sizeLimit.repr))
  else if evidence.greatestSliceBytes ≤ evidence.leastSliceBytes then
    some (.invalidValue "evidence.min_slice_bytes" "must be smaller than evidence.max_slice_bytes")
  else none

def validated (settings : Settings) : Except Failure Settings :=
  match settings.firstViolation? with
  | none => .ok settings
  | some cause => .error (.settings cause)

/-- The path of the namespace database: the one that is given, or else that of the
settings, unless it is blank. -/
def databasePath? (settings : Settings) (given : Option String) : Option String :=
  given.or (some (Text.trim settings.evidence.databasePath) |>.filter (· != ""))

def toJson (settings : Settings) : Json :=
  let evidence := settings.evidence
  .object [("evidence", .object [("annotate", .bool evidence.annotate),
      ("crypto_catalog_path", .text evidence.cryptoCatalogPath),
      ("db_path", .text evidence.databasePath), ("include_crypto", .bool evidence.includeCrypto),
      ("language", .text evidence.language),
      ("max_slice_bytes", .ofWord evidence.greatestSliceBytes),
      ("min_slice_bytes", .ofWord evidence.leastSliceBytes),
      ("with_data_flow", .bool evidence.withDataFlow),
      ("with_reachables", .bool evidence.withReachables)]),
    ("general", .object [("log_format", .text settings.general.format),
      ("log_level", .text settings.general.level)])]

end Settings

end BomEvidence
