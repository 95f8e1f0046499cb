import BomEvidence.Command.Arguments
import BomEvidence.Run.Execute
import BomEvidence.Settings.Document

/-!
What a command reports, as text for readers or as JSON. A JSON report keeps the order
in which its fields are given here.
-/

namespace BomEvidence.CommandLine

inductive Report where
  /-- Whether a settings file can be used, with the reason if it cannot. -/
  | validation (source : String) (refusal : Option String)
  /-- The settings of a file, or one part of them with its name. -/
  | effective (source : String) (part : Option String) (document : String)
  | imported (source databasePath : String) (added total : Nat)
  | found (databasePath needle : String) (packages : List String)
  | attached (report : RunReport)

namespace Report

def ofLines (lines : List String) : String := Text.join "" (lines.map (· ++ "\n"))

def padded (width : Nat) (text : String) : String :=
  text ++ String.ofList (List.replicate (width - text.length) ' ')

def countLine (label : String) (count : Nat) : String := "  " ++ padded 20 label ++ " " ++ count.repr

def sliceLines : List (SliceKind × LoadStatus) → List String
  | [] => []
  | slices =>
      let row (kind result : String) : String := "  " ++ padded 14 kind ++ " " ++ result
      ["", row "Slice" "Result", "  " ++ String.ofList (List.replicate 28 '-')] ++
        slices.map fun (kind, status) => row kind.name status.name

def attachedLines (report : RunReport) : List String :=
  let summary := report.summary
  ["Evidence: " ++ report.output ++ " (" ++ report.status.name ++ ")", "",
    countLine "Occurrences:" summary.occurrences,
    countLine "Call stacks:" summary.callstacks,
    countLine "Services:" summary.services,
    countLine "Crypto assets:" summary.algorithms,
    countLine "Crypto providers:" summary.providers,
    countLine "Index queries:" report.queries ++ " (" ++ report.hits.repr ++ " cached)"] ++
    sliceLines report.slices

def foundLines : List String → List String
  | [] => ["  no matching packages"]
  | packages => packages.map ("  " ++ ·)

def toText : Report → String
  | .validation source none => ofLines ["Config Validation: " ++ source, "  Result: VALID"]
  | .validation source (some reason) =>
      ofLines ["Config Validation: " ++ source, "  Result: INVALID", "  Error: " ++ reason]
  | .effective source none document =>
      ofLines ["Configuration (source: " ++ source ++ ")", ""] ++ document
  | .effective source (some part) document =>
      ofLines ["Configuration [" ++ part ++ "] (source: " ++ source ++ ")", ""] ++ document
  | .imported source databasePath added total =>
      ofLines ["Namespace Index: " ++ databasePath,
        "  Imported " ++ added.repr ++ " entries from " ++ source ++ " (" ++ total.repr ++ " total)"]
  | .found databasePath needle packages =>
      ofLines (("Namespace Index: " ++ databasePath ++ " (query: " ++ needle ++ ")") ::
        foundLines packages)
  | .attached report => ofLines (attachedLines report)

def attachedJson (report : RunReport) : Json :=
  let summary := report.summary
  .object [("output", .text report.output), ("status", .text report.status.name),
    ("occurrences", .ofNat summary.occurrences), ("callstacks", .ofNat summary.callstacks),
    ("services", .ofNat summary.services), ("crypto_components", .ofNat summary.algorithms),
    ("crypto_providers", .ofNat summary.providers), ("index_queries", .ofNat report.queries),
    ("cache_hits", .ofNat report.hits),
    ("slices", .ofList (fun (kind, status) =>
      .object [("kind", .text kind.name), ("result", .text status.name)]) report.slices)]

/-- A report for programs. It leaves the document of settings out. -/
def toJson : Report → Json
  | .validation source refusal =>
      .object [("source", .text source), ("valid", .bool refusal.isNone),
        ("errors", .ofList .text refusal.toList)]
  | .effective source part _ =>
      .object (("source", .text source) :: (part.map fun part => ("section", Json.text part)).toList)
  | .imported source databasePath added total =>
      .object [("source", .text source), ("db_path", .text databasePath),
        ("imported", .ofNat added), ("total", .ofNat total)]
  | .found databasePath needle packages =>
      .object [("db_path", .text databasePath), ("needle", .text needle),
        ("purls", .ofList .text packages)]
  | .attached report => attachedJson report

def write (format : ReportFormat) (report : Report) : String :=
  match format with
  | .text => report.toText
  | .json => report.toJson.pretty ++ "\n"

end Report

end BomEvidence.CommandLine
