import LanguageClient.CommandLine
import LanguageClient.DataFolder

/-!
# The program

Reads the arguments and files, creates the log file, and prints what `CommandLine.runTask` says.
-/

namespace LanguageClient

/-- What an error says about a file that could not be read. -/
def entryOfError : IO.Error → CommandLine.FileEntry
  | .inappropriateType _ 21 _ => .directory
  | .inappropriateType _ _ _ => .notADirectory
  | .invalidArgument _ _ _ => .nameTooLong
  | _ => .missing

/-- What is found under the name of a file. -/
def readEntry (path : String) : IO CommandLine.FileEntry := do
  try
    return .text (← IO.FS.readFile path)
  catch e =>
    -- what is there but cannot be read is a directory
    try
      let _ ← IO.FS.realPath path
      return .directory
    catch _ => return entryOfError e

/-- Reads the named files. -/
def readEntries (paths : List String) : IO (String → CommandLine.FileEntry) := do
  let entries ← paths.mapM fun path => return (path, ← readEntry path)
  return fun path => (entries.lookup path).getD .missing

/-- Prints a failure and gives the exit code that goes with it. -/
def fail (failure : CommandLine.Failure) : IO UInt32 := do
  IO.eprintln s!"Error: {failure.message}"
  return 1

/-- Creates the log file. -/
def createLog : IO Unit := do
  let dataHome ← IO.getEnv "XDG_DATA_HOME"
  let home ← IO.getEnv "HOME"
  IO.FS.createDirAll (DataFolder.path dataHome home)
  IO.FS.writeFile (DataFolder.logPath dataHome home) ""

/-- How the program is called. -/
def usage : String := String.intercalate "\n" [
  "Usage: lsp-assist [--config FILE] [--log-json] COMMAND",
  "",
  "  complete --file FILE --offset N --servers FILE [--apply N]",
  "  fold --file FILE --servers FILE"]

/-- The files that a task reads. -/
def CommandLine.Task.files : CommandLine.Task → List String
  | complete file _ servers _ => [file, servers]
  | fold file servers => [file, servers]

end LanguageClient

open LanguageClient in
/-- Runs the program on its arguments. -/
def main (args : List String) : IO UInt32 := do
  match CommandLine.parse args with
  | .error .version =>
    IO.println "lsp-assist 0.1.0"
    return 0
  | .error .help =>
    IO.println usage
    return 0
  | .error .wrong =>
    IO.eprintln "error: wrong arguments"
    return 2
  | .ok { config, task } =>
    let files ← readEntries (config.toList ++ task.files)
    match CommandLine.loadSettings files config with
    | .error failure => fail failure
    | .ok settings =>
      createLog
      let outcome := CommandLine.runTask files settings task
      IO.print outcome.output
      match outcome.failure with
      | some failure => fail failure
      | none => return 0
