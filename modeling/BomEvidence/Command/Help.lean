import BomEvidence.Command.Arguments

/-!
What is told about the command line itself: how commands are written, and why one is
not carried out.
-/

namespace BomEvidence.CommandLine

def versionLine : String := "purlscope 0.1.0"

def Level.named : List (List String × Level) :=
  Level.program.commands.flatMap fun (name, level) =>
    if level.hasCommands then
      level.commands.map fun (lowerName, lower) => ([name, lowerName], lower)
    else [([name], level)]

def Switch.usage (switch : Switch) : String :=
  let value := match switch.kind with
    | .path => " <path>"
    | .text => " <text>"
    | .choice words => " <" ++ Text.join "|" words ++ ">"
    | .flag | .help | .version => ""
  "--" ++ switch.long ++ value

/-- How a command is written. What is not required stands in brackets. -/
def Level.usage (names : List String) (level : Level) : String :=
  let options := level.ownSwitches.map fun switch =>
    if switch.long ∈ level.required then switch.usage else "[" ++ switch.usage ++ "]"
  let operand := level.operand?.toList.map fun operand => "<" ++ operand.long ++ ">"
  "  " ++ Text.join " " (names ++ operand ++ options)

def helpText : String :=
  let everywhere := Level.program.switches.map fun switch => "  " ++ switch.usage
  Text.join "\n"
    (["Usage: purlscope [options] <command>", "", "Commands:"] ++
      (Level.named.map fun (names, level) => level.usage names) ++
      ["", "Options:"] ++ everywhere)

def UsageError.message : UsageError → String
  | .displayHelp | .helpOnMissingCommand => helpText
  | .displayVersion => versionLine
  | .invalidCommand => "error: there is no such command"
  | .unknownArgument => "error: an argument is not known"
  | .invalidValue => "error: the value of an option is missing or not valid"
  | .argumentConflict => "error: an option is given twice"
  | .tooManyValues => "error: an option takes no value"
  | .missingArgument => "error: a required argument is missing"
  | .missingCommand => "error: a command is missing"

end BomEvidence.CommandLine
