import BomEvidence.Command.Help
import BomEvidence.Command.Run
import BomEvidence.Disk

/-!
The program. It looks at the files that a command line names, carries the command out on
them as a value, and writes what has changed.
-/

namespace BomEvidence.CommandLine

def readEntry (path : String) : IO (Option FileEntry) := do
  let handle ← try
      some <$> IO.FS.Handle.mk path .read
    catch _ => pure none
  match handle with
  | none => return none
  | some handle =>
      try
        return some (FileEntry.ofBytes (← handle.readBinToEnd)).opened
      catch _ => return some .directory

/-- Adds what stands at a path, or else what stands on the way to it. -/
def look (files : FileTree) (path : String) : IO FileTree := do
  let place := FileTree.Place.ofPath path
  for count in [0:place.length] do
    let above : FileTree.Place := place.take (place.length - count)
    if !above.isGiven then
      if let some entry ← readEntry above.key then return files.add above.key entry
  return files

def readEnvironment : IO Environment := do
  let values ← Settings.variableNames.mapM fun name => do
    return (← IO.getEnv name).map fun value => (name, value)
  return .ofList (values.filterMap id)

def currentInstant : IO Instant :=
  IO.FS.withTempFile fun _ path => do
    let made := (← path.metadata).modified
    return ⟨made.sec * 1000 + made.nsec.toNat / 1000000⟩

def tellFailure (failure : CommandFailure) : IO Unit :=
  IO.eprintln ("error: " ++ failure.message)

def carryOut (arguments : Arguments) : IO UInt32 := do
  let environment ← readEnvironment
  let files ← look ∅ arguments.configPath
  match logFormat files environment arguments.configPath with
  | .error failure =>
      tellFailure failure
      return failure.exitCode.toUInt32
  | .ok _ =>
      let settings :=
        (effectiveSettings files environment arguments.configPath).toOption.getD .standard
      let files ← (arguments.command.paths settings).foldlM look files
      let result := arguments.run environment (← currentInstant) files
      for (path, content) in files.changes result.files do
        IO.FS.writeFile path content
      IO.print (result.output arguments.format)
      if let some failure := result.failure then tellFailure failure
      return result.exitCode.toUInt32

end BomEvidence.CommandLine

open BomEvidence.CommandLine in
def main (arguments : List String) : IO UInt32 := do
  match Arguments.parse arguments with
  | .ok arguments => carryOut arguments
  | .error cause =>
      if cause.exitCode = 0 then IO.println cause.message else IO.eprintln cause.message
      return cause.exitCode.toUInt32
