import BomEvidence.Failure

/-!
What a command tells besides its report: why it fails, with the message that is shown and the exit
code of the program, and in which form it writes its log lines.
-/

namespace BomEvidence

inductive CommandFailure where
  /-- The settings are missing or not valid. -/
  | settings (reason : String)
  /-- The command itself cannot be carried out. -/
  | command (message : String)
  /-- The run that the command started was stopped. -/
  | run (cause : RunFailure)
  | files (reason : String)
  | failure (cause : Failure)
  deriving DecidableEq, Repr

namespace CommandFailure

def message : CommandFailure → String
  | .settings reason => "configuration error: " ++ reason
  | .command message => message
  | .run cause => "evidence error: " ++ cause.message
  | .files reason => "io error: " ++ reason
  | .failure cause => cause.message

/-- Two for settings, three for a run, ten for files and one for all else. -/
def exitCode : CommandFailure → Nat
  | .settings _ => 2
  | .run (.settings _ _) => 2
  | .run (.bomUnread _ _) => 10
  | .run _ => 3
  | .files _ => 10
  | .failure (.settings _) => 2
  | .failure (.files _) => 10
  | .command _ | .failure _ => 1

/-- A cause as the failure of a command. A missing settings file is named at once. -/
def ofFailure : Failure → CommandFailure
  | .settings (.fileNotFound path) => .settings (SettingsFailure.fileNotFound path).message
  | cause => .failure cause

end CommandFailure

inductive LogFormat where
  | json
  | pretty
  deriving DecidableEq, Repr

def LogFormat.ofName : String → Except CommandFailure LogFormat
  | "json" => .ok .json
  | "pretty" => .ok .pretty
  | other => .error (.settings ("unknown log format '" ++ other ++ "', expected 'json' or 'pretty'"))

end BomEvidence
