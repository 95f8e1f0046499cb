import BomEvidence.Command.Log
import BomEvidence.Command.Report
import BomEvidence.Settings.Load

/-!
Carrying a command out. What the arguments give takes the place of the settings; a
feature that the settings ask for stays on.
-/

namespace BomEvidence.CommandLine

/-- What a command reports, why it failed, and the files after it. A settings file that
cannot be used is reported, and a failure too. -/
structure CommandResult where
  report : Option Report
  failure : Option CommandFailure
  files : FileTree

namespace CommandResult

def ofReport (files : FileTree) : Except CommandFailure Report → CommandResult
  | .ok report => ⟨some report, none, files⟩
  | .error failure => ⟨none, some failure, files⟩

def ofOutcome (files : FileTree) : Except CommandFailure (Report × FileTree) → CommandResult
  | .ok (report, changed) => ⟨some report, none, changed⟩
  | .error failure => ⟨none, some failure, files⟩

def output (format : ReportFormat) (result : CommandResult) : String :=
  (result.report.map (·.write format)).getD ""

def exitCode (result : CommandResult) : Nat :=
  (result.failure.map CommandFailure.exitCode).getD 0

end CommandResult

def effectiveSettings (files : FileTree) (environment : Environment) (path : String) :
    Except CommandFailure Settings :=
  (Settings.loadOrDefault files environment path).mapError .ofFailure

/-- The form of log lines by the settings, or by the default ones if they cannot be used. -/
def logFormat (files : FileTree) (environment : Environment) (path : String) :
    Except CommandFailure LogFormat :=
  let settings := (effectiveSettings files environment path).toOption.getD .standard
  LogFormat.ofName settings.general.format

/-! ### Commands on settings -/

def validateConfig (files : FileTree) (environment : Environment) (path : String) :
    CommandResult :=
  match Settings.load files environment path with
  | .ok _ => ⟨some (.validation path none), none, files⟩
  | .error failure =>
      ⟨some (.validation path (some failure.message)),
        some (.settings "configuration is invalid"), files⟩

def partOfName (name : String) : Except CommandFailure Settings.Part :=
  match Settings.Part.ofName? name with
  | some part => .ok part
  | none => .error (.command ("unknown section: " ++ name ++ " (expected: general, evidence)"))

def showConfig (files : FileTree) (environment : Environment) (path : String)
    (name : Option String) : Except CommandFailure Report := do
  let settings ← (Settings.load files environment path).mapError .ofFailure
  match name with
  | none => return .effective path none (settings.document none)
  | some name => return .effective path (some name) (settings.document (some (← partOfName name)))

/-! ### Commands on the namespace index -/

def indexPath (settings : Settings) (given : Option String) : Except CommandFailure String :=
  match settings.databasePath? given with
  | some path => .ok path
  | none => .error (.settings
      "no namespace index path: pass --db-path or set evidence.db_path")

def importIndex (files : FileTree) (settings : Settings) (source : String)
    (given : Option String) : Except CommandFailure (Report × FileTree) := do
  let path ← indexPath settings given
  let content ← (files.readText source).mapError fun failure => .files failure.message
  let added ← (Catalog.ofJson content).mapError .ofFailure
  let (held, opened) ← (files.openDatabase path).mapError .ofFailure
  let (count, catalog) := held.importAll added.entries
  return (.imported source path count catalog.size, opened.keepDatabase path catalog)

def queryIndex (files : FileTree) (settings : Settings) (needle : String)
    (given : Option String) : Except CommandFailure (Report × FileTree) := do
  let path ← indexPath settings given
  if files.holds path then
    let (catalog, opened) ← (files.openDatabase path).mapError .ofFailure
    let packages ← (catalog.databaseIndex.find needle).mapError .ofFailure
    return (.found path needle packages, opened)
  else .error (.command ("namespace index not found: " ++ path))

/-! ### Attaching evidence -/

def languageOr (name : Option String) (language : Language) : Except CommandFailure Language :=
  match name with
  | none => .ok language
  | some name =>
      match Language.ofTag? name with
      | some chosen => .ok chosen
      | none => .error (.command ("unsupported language: " ++ name))

def runConfig (arguments : AttachArguments) (settings : Settings) :
    Except CommandFailure RunConfig := do
  let config := RunConfig.ofSettings settings.evidence
  let language ← languageOr arguments.language config.language
  { config with
    input := arguments.input
    output := arguments.output.getD config.output
    language
    databasePath := (settings.databasePath? arguments.databasePath).getD config.databasePath
    usagesPath := arguments.usagesPath
    dataFlowPath := arguments.dataFlowPath
    reachablesPath := arguments.reachablesPath
    semanticsPath := arguments.semanticsPath
    withDataFlow := arguments.withDataFlow || config.withDataFlow
    withReachables := arguments.withReachables || config.withReachables
    includeCrypto := arguments.includeCrypto || config.includeCrypto
    annotate := arguments.annotate || config.annotate
    cryptoCatalogPath := arguments.cryptoCatalog.getD config.cryptoCatalogPath
  }.build.mapError .run

def writeMaps (path : Option String) (maps : EvidenceMaps) (files : FileTree) :
    Except CommandFailure FileTree :=
  match path with
  | none => .ok files
  | some path => (files.writeText path maps.toJson.pretty).mapError fun failure =>
      .files failure.message

/-- Attaches evidence at an instant. A run that was stopped may have changed files. -/
def attach (arguments : AttachArguments) (config : RunConfig) (now : Instant)
    (files : FileTree) : CommandResult :=
  let result := Run.execute config .none now files
  match result.outcome with
  | .error cause => ⟨none, some (.run cause), result.files⟩
  | .ok report =>
      .ofOutcome result.files do
        return (.attached report, ← writeMaps arguments.mapsOutput report.maps result.files)

def Arguments.run (arguments : Arguments) (environment : Environment) (now : Instant)
    (files : FileTree) : CommandResult :=
  let path := arguments.configPath
  match arguments.command with
  | .validateConfig => validateConfig files environment path
  | .showConfig name => .ofReport files (showConfig files environment path name)
  | .importIndex source given =>
      .ofOutcome files do
        importIndex files (← effectiveSettings files environment path) source given
  | .queryIndex needle given =>
      .ofOutcome files do
        queryIndex files (← effectiveSettings files environment path) needle given
  | .attach given =>
      match effectiveSettings files environment path >>= runConfig given with
      | .error failure => ⟨none, some failure, files⟩
      | .ok config => attach given config now files

/-- The paths that a command may read or write, besides that of the settings. -/
def Command.paths (settings : Settings) : Command → List String
  | .validateConfig | .showConfig _ => []
  | .importIndex source given => source :: (settings.databasePath? given).toList
  | .queryIndex _ given => (settings.databasePath? given).toList
  | .attach given =>
      let evidence := settings.evidence
      [given.input, evidence.databasePath, evidence.cryptoCatalogPath] ++
        (settings.databasePath? given.databasePath).toList ++
        [given.output, given.usagesPath, given.dataFlowPath, given.reachablesPath,
          given.semanticsPath, given.mapsOutput, given.cryptoCatalog].flatMap Option.toList

end BomEvidence.CommandLine
