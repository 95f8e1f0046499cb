/-!
What can go wrong, as causes. `Failure` covers settings, slices, the namespace
index, the crypto detector and documents; `RunFailure` covers what stops a run.
The wording of each cause is in one function.
-/

namespace BomEvidence

inductive SettingsFailure where
  | fileNotFound (path : String)
  | parseFailed (reason : String)
  | invalidValue (field reason : String)
  deriving DecidableEq, Repr

inductive SliceFailure where
  | readFailed (path reason : String)
  | invalid (path reason : String)
  deriving DecidableEq, Repr

inductive IndexFailure where
  | openFailed (reason : String)
  | queryFailed (reason : String)
  | importFailed (reason : String)
  deriving DecidableEq, Repr

inductive DetectorFailure where
  | catalogFailed (reason : String)
  | detectionFailed (reason : String)
  deriving DecidableEq, Repr

inductive BomFailure where
  | parseFailed (reason : String)
  | unsupportedVersion (version : String)
  | writeFailed (reason : String)
  deriving DecidableEq, Repr

inductive Failure where
  | settings (cause : SettingsFailure)
  | slice (cause : SliceFailure)
  | index (cause : IndexFailure)
  | detector (cause : DetectorFailure)
  | bom (cause : BomFailure)
  | files (reason : String)
  deriving DecidableEq, Repr

inductive RunFailure where
  | bomUnread (path reason : String)
  | bomUnparsed (path reason : String)
  | unsupportedVersion (version : String)
  | bomUnwritten (path reason : String)
  | settings (field reason : String)
  | index (reason : String)
  | detector (reason : String)
  | task (reason : String)
  deriving DecidableEq, Repr

def SettingsFailure.message : SettingsFailure → String
  | .fileNotFound path => "config file not found: " ++ path
  | .parseFailed reason => "failed to parse config: " ++ reason
  | .invalidValue field reason => "invalid config value for '" ++ field ++ "': " ++ reason

def SliceFailure.message : SliceFailure → String
  | .readFailed path reason => "failed to read slice " ++ path ++ ": " ++ reason
  | .invalid path reason => "invalid slice " ++ path ++ ": " ++ reason

def IndexFailure.message : IndexFailure → String
  | .openFailed reason => "failed to open index: " ++ reason
  | .queryFailed reason => "query failed: " ++ reason
  | .importFailed reason => "import failed: " ++ reason

def DetectorFailure.message : DetectorFailure → String
  | .catalogFailed reason => "catalog load failed: " ++ reason
  | .detectionFailed reason => "detection failed: " ++ reason

def BomFailure.message : BomFailure → String
  | .parseFailed reason => "sbom parse failed: " ++ reason
  | .unsupportedVersion version => "unsupported spec version: " ++ version
  | .writeFailed reason => "sbom write failed: " ++ reason

def Failure.message : Failure → String
  | .settings cause => "config error: " ++ cause.message
  | .slice cause => "slice error: " ++ cause.message
  | .index cause => "index error: " ++ cause.message
  | .detector cause => "detector error: " ++ cause.message
  | .bom cause => "sbom error: " ++ cause.message
  | .files reason => "io error: " ++ reason

def RunFailure.message : RunFailure → String
  | .bomUnread path reason => "failed to read sbom: " ++ path ++ ": " ++ reason
  | .bomUnparsed path reason => "failed to parse sbom: " ++ path ++ ": " ++ reason
  | .unsupportedVersion version =>
      "unsupported cyclonedx spec version '" ++ version ++ "' (1.5 or newer required)"
  | .bomUnwritten path reason => "failed to write sbom: " ++ path ++ ": " ++ reason
  | .settings field reason => "config error: " ++ field ++ ": " ++ reason
  | .index reason => "namespace index error: " ++ reason
  | .detector reason => "crypto detector error: " ++ reason
  | .task reason => "task error: " ++ reason

def RunFailure.toFailure : RunFailure → Failure
  | .bomUnread _ reason => .files reason
  | .bomUnparsed path reason => .bom (.parseFailed (path ++ ": " ++ reason))
  | .unsupportedVersion version => .bom (.unsupportedVersion version)
  | .bomUnwritten path reason => .bom (.writeFailed (path ++ ": " ++ reason))
  | .settings field reason => .settings (.invalidValue field reason)
  | .index reason => .index (.openFailed reason)
  | .detector reason => .detector (.catalogFailed reason)
  | .task reason => .bom (.writeFailed ("task error: " ++ reason))

end BomEvidence
