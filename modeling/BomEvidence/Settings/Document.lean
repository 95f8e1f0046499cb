import BomEvidence.Settings.Basic
import BomEvidence.Toml.Decode
import BomEvidence.Toml.Document
import BomEvidence.Toml.Quoted

/-!
Settings as a TOML document. What a document leaves out has its default.
-/

namespace BomEvidence

namespace LogSettings

def ofToml? : Toml.Reader LogSettings := fun value => do
  let fields ← value.record? ["log_level", "log_format"]
  some {
    level := ← fields.withDefault? "log_level" .text? Settings.defaultLog.level
    format := ← fields.withDefault? "log_format" .text? Settings.defaultLog.format }

def lines (settings : LogSettings) : List String :=
  ["log_level = " ++ Toml.quote settings.level, "log_format = " ++ Toml.quote settings.format]

end LogSettings

namespace EvidenceSettings

def fieldNames : List String :=
  ["language", "db_path", "with_data_flow", "with_reachables", "include_crypto", "annotate",
    "min_slice_bytes", "max_slice_bytes", "crypto_catalog_path"]

def ofToml? : Toml.Reader EvidenceSettings := fun value => do
  let fields ← value.record? fieldNames
  let default := Settings.defaultEvidence
  some {
    language := ← fields.withDefault? "language" .text? default.language
    databasePath := ← fields.withDefault? "db_path" .text? default.databasePath
    withDataFlow := ← fields.withDefault? "with_data_flow" .bool? default.withDataFlow
    withReachables := ← fields.withDefault? "with_reachables" .bool? default.withReachables
    includeCrypto := ← fields.withDefault? "include_crypto" .bool? default.includeCrypto
    annotate := ← fields.withDefault? "annotate" .bool? default.annotate
    leastSliceBytes := ← fields.withDefault? "min_slice_bytes" .word? default.leastSliceBytes
    greatestSliceBytes := ← fields.withDefault? "max_slice_bytes" .word? default.greatestSliceBytes
    cryptoCatalogPath := ←
      fields.withDefault? "crypto_catalog_path" .text? default.cryptoCatalogPath }

def lines (settings : EvidenceSettings) : List String :=
  let flag (value : Bool) : String := if value then "true" else "false"
  ["language = " ++ Toml.quote settings.language,
    "db_path = " ++ Toml.quote settings.databasePath,
    "with_data_flow = " ++ flag settings.withDataFlow,
    "with_reachables = " ++ flag settings.withReachables,
    "include_crypto = " ++ flag settings.includeCrypto,
    "annotate = " ++ flag settings.annotate,
    "min_slice_bytes = " ++ settings.leastSliceBytes.toNat.repr,
    "max_slice_bytes = " ++ settings.greatestSliceBytes.toNat.repr,
    "crypto_catalog_path = " ++ Toml.quote settings.cryptoCatalogPath]

end EvidenceSettings

namespace Settings

def ofToml? : Toml.Reader Settings := fun value => do
  let fields ← value.record? ["general", "evidence"]
  some {
    general := ← fields.withDefault? "general" LogSettings.ofToml? defaultLog
    evidence := ← fields.withDefault? "evidence" EvidenceSettings.ofToml? defaultEvidence }

/-- The settings of a document, which may break rules. -/
def parse (source : String) : Except Failure Settings :=
  match (Toml.parse? source).bind fun members => ofToml? (.table members) with
  | some settings => .ok settings
  | none => .error (.settings (.parseFailed "not a document of settings"))

inductive Part where
  | general
  | evidence
  deriving DecidableEq, Repr

def Part.ofName? : String → Option Part
  | "general" => some .general
  | "evidence" => some .evidence
  | _ => none

def ofLines (lines : List String) : String := Text.join "" (lines.map (· ++ "\n"))

def document (settings : Settings) : Option Part → String
  | some .general => ofLines settings.general.lines
  | some .evidence => ofLines settings.evidence.lines
  | none => ofLines (["[general]"] ++ settings.general.lines ++ ["", "[evidence]"] ++
      settings.evidence.lines)

end Settings

end BomEvidence
