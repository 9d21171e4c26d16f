import EnvAudit.Files.Edit
import EnvAudit.Program

/-!
# The command

The command takes what the program depends on from the system: its arguments,
its environment, and the files that it may read.  Then it writes what the
program answers.
-/

namespace EnvAudit

namespace Command

/-- The variables of the process. -/
def readEnvironment : IO Environment := do
  let bytes ← IO.FS.readBinFile "/proc/self/environ"
  let text := (String.fromUTF8? bytes).getD ""
  let assignments := (Text.split '\x00' text).filterMap fun assignment =>
    match (assignment.toList.dropWhile (· != '=')) with
    | [] => none
    | _ :: value =>
        some (String.ofList (assignment.toList.takeWhile (· != '=')), String.ofList value)
  return .ofList assignments

/-- What a link leads to; one that leads nowhere is given a name that no entry
has. -/
def readLink (path : String) : IO String := do
  try
    return (← IO.FS.realPath path).toString
  catch _ => return Path.join path "\x00"

/-- Adds what a path leads to, with all that is below it and all that links
below it lead to. -/
partial def addPath (files : FileSystem) (path : String) : IO FileSystem := do
  if (files.locate path).isOk then
    return files
  let here := (← IO.currentDir) / path
  try
    let metadata ← here.symlinkMetadata
    match metadata.type with
    | .dir =>
        let mut files := files.put path (.directory true [])
        for entry in (← here.readDir) do
          files ← addPath files (Path.join path entry.fileName)
        return files
    | .symlink =>
        let target ← readLink path
        addPath (files.put path (.link target)) target
    | _ => return files.put path (.file true (← IO.FS.readBinFile here))
  catch _ => return files

/-- The files that a run may read. -/
def readFiles (workingDirectory : String) (line : CommandLine) (environment : Environment) :
    IO FileSystem := do
  let root := Program.rootOf workingDirectory line
  let mut files : FileSystem := { root := ⟨true, []⟩, workingDirectory }
  for path in root :: line.config.toList do
    files ← addPath files path
  match Config.load files root line.config environment line.overrides with
  | .ok config => addPath files config.env.effectiveFile
  | .error _ => return files

/-- Runs the program on the files of the system. -/
def run (arguments : List String) : IO Outcome := do
  let environment ← readEnvironment
  let workingDirectory := (← IO.currentDir).toString
  match CommandLine.parse arguments with
  | .error _ => return Program.run { root := ⟨true, []⟩, workingDirectory } arguments environment 0
  | .ok line =>
      let start ← IO.monoMsNow
      let files ← readFiles workingDirectory line environment
      let stop ← IO.monoMsNow
      return Program.run files arguments environment (stop - start)

end Command

end EnvAudit

/-- Writes what the program answers to its arguments. -/
def main (arguments : List String) : IO UInt32 := do
  let outcome ← EnvAudit.Command.run arguments
  IO.print outcome.stdout
  (← IO.getStdout).flush
  for record in outcome.log do
    IO.eprintln s!"{record.level.name} {record.message}"
  IO.eprint outcome.stderr
  return outcome.exitCode.toUInt32
