import BomEvidence.Command.Level
import BomEvidence.Text.Search

/-!
Reading the command line. Arguments belong to the level that is open; the name of a
command opens the level below. The value of an option is checked when the next option
or value of its level is accepted, or else at the end of the level, and levels end with
the lowest one.
-/

namespace BomEvidence.CommandLine

/-- Why a command line is not carried out. Asking for help or for the version is among
the causes. -/
inductive UsageError where
  | displayHelp
  | displayVersion
  | helpOnMissingCommand
  | invalidCommand
  | unknownArgument
  | invalidValue
  | argumentConflict
  | tooManyValues
  | missingArgument
  | missingCommand
  deriving DecidableEq, Repr

/-- Help and the version are what was asked for; all else is misuse. -/
def UsageError.exitCode : UsageError → Nat
  | .displayHelp | .displayVersion => 0
  | _ => 2

/-- An open level with the options that were accepted and the one that still is not. -/
structure OpenLevel where
  level : Level
  given : List (String × String)
  /-- An option with its value, if there is one yet. -/
  pending : Option (Switch × Option String)
  /-- Whether everything that follows is a value. -/
  valuesOnly : Bool
  deriving DecidableEq, Repr

namespace OpenLevel

def start (level : Level) : OpenLevel := ⟨level, [], none, false⟩

def awaitsValue (opened : OpenLevel) : Bool :=
  match opened.pending with
  | some (_, none) => true
  | _ => false

/-- Accepts an option or value. None may be given twice. -/
def accept (opened : OpenLevel) (switch : Switch) (value : String) : Except UsageError OpenLevel :=
  if (opened.given.lookup switch.long).isSome then .error .argumentConflict
  else if switch.kind.accepts value then
    .ok { opened with given := opened.given ++ [(switch.long, value)], pending := none }
  else .error .invalidValue

def settle (opened : OpenLevel) : Except UsageError OpenLevel :=
  match opened.pending with
  | none => .ok opened
  | some (_, none) => .error .invalidValue
  | some (switch, some value) => accept { opened with pending := none } switch value

def takeFlag (opened : OpenLevel) (switch : Switch) : Except UsageError OpenLevel := do
  let opened ← opened.settle
  match switch.kind with
  | .help => .error .displayHelp
  | .version => .error .displayVersion
  | _ => opened.accept switch "true"

/-- Takes an option with the value that is attached to it, or that may follow. -/
def takeOption (opened : OpenLevel) (switch : Switch) (attached : Option String) :
    Except UsageError OpenLevel := do
  let opened ← opened.settle
  match attached with
  | some value => opened.accept switch value
  | none => .ok { opened with pending := some (switch, none) }

def takeLong (opened : OpenLevel) (name : String) (attached : Option String) :
    Except UsageError OpenLevel :=
  match opened.level.switches.find? fun switch => switch.long = name with
  | none => .error .unknownArgument
  | some switch =>
      if switch.kind.takesValue then opened.takeOption switch attached
      else if attached.isSome then .error .tooManyValues
      else opened.takeFlag switch

/-- The value behind the letter of an option, without an equals sign in front of it. -/
def attachedValue : List Char → Option String
  | [] => none
  | '=' :: rest => some (String.ofList rest)
  | rest => some (String.ofList rest)

/-- Takes options by their letters. The first one that takes a value ends them. -/
def takeShort (opened : OpenLevel) : List Char → Except UsageError OpenLevel
  | [] => .ok opened
  | letter :: rest =>
      match opened.level.switches.find? fun switch => switch.short = some letter with
      | none => .error .unknownArgument
      | some switch =>
          if switch.kind.takesValue then opened.takeOption switch (attachedValue rest)
          else do takeShort (← opened.takeFlag switch) rest

def namesCommand (opened : OpenLevel) (word : String) : Bool :=
  opened.level.hasCommands && ((opened.level.commands.lookup word).isSome || word = "help")

/-- Whether an option or value was taken, accepted or not. -/
def hasTaken (opened : OpenLevel) (name : String) : Bool :=
  (opened.given.lookup name).isSome ||
    opened.pending.any fun (switch, _) => switch.long = name

/-- Takes the value of the level itself, of which there is at most one. -/
def takeOperand (opened : OpenLevel) (value : String) : Except UsageError OpenLevel :=
  match opened.level.operand? with
  | some operand =>
      if opened.hasTaken operand.long then .error .unknownArgument
      else do
        let opened ← opened.settle
        .ok { opened with pending := some (operand, some value) }
  | none =>
      if !opened.level.hasCommands || (opened.valuesOnly && opened.namesCommand value) then
        .error .unknownArgument
      else .error .invalidCommand

def takeValue (opened : OpenLevel) (value : String) : Except UsageError OpenLevel :=
  match opened.pending with
  | some (switch, none) =>
      if opened.valuesOnly then opened.takeOperand value
      else .ok { opened with pending := some (switch, some value) }
  | _ => opened.takeOperand value

def take (opened : OpenLevel) (argument : String) : Except UsageError OpenLevel :=
  if opened.valuesOnly then opened.takeValue argument
  else
    match argument.toList with
    | ['-', '-'] => .ok { opened with valuesOnly := true }
    | '-' :: '-' :: long =>
        match Text.breakAt? ['='] long with
        | some (name, value) => opened.takeLong (String.ofList name) (some (String.ofList value))
        | none => opened.takeLong (String.ofList long) none
    | '-' :: letter :: letters => opened.takeShort (letter :: letters)
    | _ => opened.takeValue argument

def finish (opened : OpenLevel) (hasBelow : Bool) : Except UsageError OpenLevel := do
  let opened ← opened.settle
  if opened.level.hasCommands && !hasBelow then
    if opened.given.isEmpty then .error .helpOnMissingCommand else .error .missingCommand
  else if opened.level.required.all fun name => (opened.given.lookup name).isSome then .ok opened
  else .error .missingArgument

end OpenLevel

/-- Follows the names of a question for help below a level. Help on help itself is
asked for with nothing behind it. -/
def askHelp (level : Level) : List String → UsageError
  | [] => .displayHelp
  | name :: rest =>
      match level.commands.lookup name with
      | some below => askHelp below rest
      | none =>
          if name = "help" && level.hasCommands && rest.isEmpty then .displayHelp
          else .invalidCommand

/-- Reads the arguments of a level and of those below it, the lowest one last. -/
def readLevels (opened : OpenLevel) : List String → Except UsageError (List OpenLevel)
  | [] => do return [← opened.finish false]
  | argument :: rest =>
      if opened.valuesOnly || opened.awaitsValue then do readLevels (← opened.take argument) rest
      else
        match opened.level.commands.lookup argument with
        | some below => do
            let lower ← readLevels (.start below) rest
            return (← opened.finish true) :: lower
        | none =>
            if argument = "help" && opened.level.hasCommands then
              .error (askHelp opened.level rest)
            else do readLevels (← opened.take argument) rest

/-! ### Commands -/

inductive ReportFormat where
  | text
  | json
  deriving DecidableEq, Repr

structure AttachArguments where
  input : String
  output : Option String
  language : Option String
  databasePath : Option String
  usagesPath : Option String
  dataFlowPath : Option String
  reachablesPath : Option String
  semanticsPath : Option String
  withDataFlow : Bool
  withReachables : Bool
  includeCrypto : Bool
  annotate : Bool
  mapsOutput : Option String
  cryptoCatalog : Option String
  deriving DecidableEq, Repr

inductive Command where
  | attach (arguments : AttachArguments)
  | importIndex (source : String) (databasePath : Option String)
  | queryIndex (needle : String) (databasePath : Option String)
  | validateConfig
  | showConfig (part : Option String)
  deriving DecidableEq, Repr

structure Arguments where
  configPath : String
  logLevel : Option String
  format : ReportFormat
  command : Command
  deriving DecidableEq, Repr

namespace Arguments

def standardConfigPath : String := "purlscope.toml"

def command? (lowest : OpenLevel) : Option Command :=
  let value? (name : String) := lowest.given.lookup name
  let flag (name : String) := (value? name).isSome
  match lowest.level with
  | .attach =>
      (value? "input").map fun input =>
        .attach {
          input
          output := value? "output"
          language := value? "language"
          databasePath := value? "db-path"
          usagesPath := value? "usages-slices-file"
          dataFlowPath := value? "data-flow-slices-file"
          reachablesPath := value? "reachables-slices-file"
          semanticsPath := value? "semantics-slices-file"
          withDataFlow := flag "with-data-flow"
          withReachables := flag "with-reachables"
          includeCrypto := flag "include-crypto"
          annotate := flag "annotate"
          mapsOutput := value? "maps-output"
          cryptoCatalog := value? "crypto-catalog" }
  | .indexImport => (value? "source").map fun source => .importIndex source (value? "db-path")
  | .indexQuery => (value? "needle").map fun needle => .queryIndex needle (value? "db-path")
  | .configValidate => some .validateConfig
  | .configShow => some (.showConfig (value? "section"))
  | .program | .index | .config => none

/-- The value of an option that every level has: the lowest level decides. -/
def sharedValue? (levels : List OpenLevel) (name : String) : Option String :=
  (levels.filterMap fun opened => opened.given.lookup name).getLast?

def parse (arguments : List String) : Except UsageError Arguments := do
  let levels ← readLevels (.start .program) arguments
  match levels.getLast?.bind command? with
  | none => .error .missingCommand
  | some command =>
      .ok {
        configPath := (sharedValue? levels "config").getD standardConfigPath
        logLevel := sharedValue? levels "log-level"
        format := if sharedValue? levels "format" = some "json" then .json else .text
        command }

end Arguments

end BomEvidence.CommandLine
