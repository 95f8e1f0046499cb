import BomEvidence.FileTree
import BomEvidence.Settings.Document
import BomEvidence.Text.Search

/-!
The settings that are in effect. A document has to keep the rules of settings by
itself; then variables of the environment take the place of its values, as far as
they can be read, and the rules have to be kept again.
-/

namespace BomEvidence

abbrev Environment := TextMap String

namespace Settings

def generalVariable (name : String) : String := "PURLSCOPE_GENERAL_" ++ name

def evidenceVariable (name : String) : String := "PURLSCOPE_EVIDENCE_" ++ name

def variableNames : List String :=
  ["LOG_LEVEL", "LOG_FORMAT"].map generalVariable ++
    ["LANGUAGE", "DB_PATH", "WITH_DATA_FLOW", "WITH_REACHABLES", "INCLUDE_CRYPTO", "ANNOTATE",
      "MIN_SLICE_BYTES", "MAX_SLICE_BYTES", "CRYPTO_CATALOG_PATH"].map evidenceVariable

/-- The value of a variable, or else the one that is in place. -/
def textOr (held? : Option String) (value : String) : String := held?.getD value

def flagOr (held? : Option String) (value : Bool) : Bool :=
  match held? with
  | some "true" => true
  | some "false" => false
  | _ => value

def wordOr (held? : Option String) (value : UInt64) : UInt64 :=
  ((held?.bind (Text.unsigned? UInt64.size)).map UInt64.ofNat).getD value

def withEnvironment (environment : Environment) (settings : Settings) : Settings :=
  let general (name : String) := environment.get? (generalVariable name)
  let evidence (name : String) := environment.get? (evidenceVariable name)
  { general :=
      { level := textOr (general "LOG_LEVEL") settings.general.level
        format := textOr (general "LOG_FORMAT") settings.general.format }
    evidence :=
      { language := textOr (evidence "LANGUAGE") settings.evidence.language
        databasePath := textOr (evidence "DB_PATH") settings.evidence.databasePath
        withDataFlow := flagOr (evidence "WITH_DATA_FLOW") settings.evidence.withDataFlow
        withReachables := flagOr (evidence "WITH_REACHABLES") settings.evidence.withReachables
        includeCrypto := flagOr (evidence "INCLUDE_CRYPTO") settings.evidence.includeCrypto
        annotate := flagOr (evidence "ANNOTATE") settings.evidence.annotate
        leastSliceBytes := wordOr (evidence "MIN_SLICE_BYTES") settings.evidence.leastSliceBytes
        greatestSliceBytes :=
          wordOr (evidence "MAX_SLICE_BYTES") settings.evidence.greatestSliceBytes
        cryptoCatalogPath :=
          textOr (evidence "CRYPTO_CATALOG_PATH") settings.evidence.cryptoCatalogPath } }

def ofFile (files : FileTree) (path : String) : Except Failure Settings :=
  match files.readText path with
  | .error .notFound => .error (.settings (.fileNotFound path))
  | .error failure => .error (.files failure.message)
  | .ok source => do (← parse source).validated

def load (files : FileTree) (environment : Environment) (path : String) :
    Except Failure Settings := do
  ((← ofFile files path).withEnvironment environment).validated

/-- The settings of a file in an environment, or the default ones where there is no file. -/
def loadOrDefault (files : FileTree) (environment : Environment) (path : String) :
    Except Failure Settings :=
  if files.holds path then load files environment path
  else (standard.withEnvironment environment).validated

end Settings

end BomEvidence
