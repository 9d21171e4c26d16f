import EnvAudit.CommandLine.Refusal
import EnvAudit.Config.Layers
import EnvAudit.Report.Format
import EnvAudit.Text.Parts

/-!
# Reading the command line

The arguments of the program are read one after the other.  A parameter may be
spelled with its name or its letter, and its value may be attached to it or be
the next argument.  Behind two dashes everything is a path.
-/

namespace EnvAudit

/-- What a command line says. -/
structure CommandLine where
  path : Option String := none
  envFile : Option String := none
  noEnvFile : Bool := false
  format : ReportFormat := .human
  ignore : List String := []
  ext : Option (List String) := none
  emptyIsSet : Bool := false
  skipUnparsable : Bool := false
  config : Option String := none
  verbose : Bool := false
  deriving BEq, DecidableEq, Repr, Inhabited

namespace CommandLine

/-- What a command line says about settings. -/
def overrides (line : CommandLine) : Overrides where
  extensions := line.ext
  extraIgnore := line.ignore
  emptyIsMissing := if line.emptyIsSet then some false else none
  onParseError := if line.skipUnparsable then some .skip else none
  envFile := line.envFile
  loadEnvFile := if line.noEnvFile then some false else none

/-- A command line after a flag, unless the flag asks for a text instead. -/
def setFlag (line : CommandLine) : Flag → Except Refusal CommandLine
  | .noEnvFile => .ok { line with noEnvFile := true }
  | .emptyIsSet => .ok { line with emptyIsSet := true }
  | .skipUnparsable => .ok { line with skipUnparsable := true }
  | .verbose => .ok { line with verbose := true }
  | .help => .error .helpWanted
  | .version => .error .versionWanted

/-- The format with the given name. -/
def formatOfName (name : String) : Except Refusal ReportFormat :=
  match name with
  | "human" => .ok .human
  | "json" => .ok .json
  | "" => .error (.valueMissing .format)
  | _ => .error (.valueUnknown .format name)

/-- A command line after a parameter with its value. -/
def setSlot (line : CommandLine) (value : String) : Slot → Except Refusal CommandLine
  | .path => if value = "" then .error (.valueMissing .path) else .ok { line with path := value }
  | .envFile => .ok { line with envFile := value }
  | .format => (formatOfName value).map fun format => { line with format }
  | .ignore => .ok { line with ignore := line.ignore ++ [value] }
  | .ext => .ok { line with ext := some (line.ext.getD [] ++ Text.split ',' value) }
  | .config =>
      if value = "" then .error (.valueMissing .config) else .ok { line with config := value }

/-- What is known while arguments are read. -/
structure Progress where
  line : CommandLine := {}
  /-- The parameters given so far, in the order in which they came first. -/
  used : List Parameter := []
  /-- The last parameter if it is not yet part of the line, with its value if
  that has been read. -/
  pending : Option (Slot × Option String) := none
  deriving Repr

namespace Progress

/-- Parameters with one more. -/
def addTo (used : List Parameter) (parameter : Parameter) : List Parameter :=
  if used.contains parameter then used else used ++ [parameter]

/-- Takes in a flag. -/
def addFlag (progress : Progress) (flag : Flag) : Except Refusal Progress := do
  if progress.used.contains (.flag flag) then
    throw (.repeated (.flag flag))
  let line ← progress.line.setFlag flag
  return { progress with line, used := addTo progress.used (.flag flag) }

/-- Takes in a parameter with its value. -/
def addSlot (progress : Progress) (slot : Slot) (value : String) : Except Refusal Progress := do
  if progress.used.contains (.slot slot) && !slot.isRepeatable then
    throw (.repeated (.slot slot))
  let line ← progress.line.setSlot value slot
  return { progress with line, used := addTo progress.used (.slot slot) }

/-- Takes in the pending parameter. -/
def settle (progress : Progress) : Except Refusal Progress :=
  match progress.pending with
  | none => .ok progress
  | some (slot, none) => .error (.valueMissing slot)
  | some (slot, some value) => { progress with pending := none }.addSlot slot value

/-- The parameters given so far, with the pending one, whatever its value.  One
that must not be repeated counts no more when it is. -/
def usedWithPending (progress : Progress) : List Parameter :=
  match progress.pending with
  | some (slot, some _) =>
      if progress.used.contains (.slot slot) && !slot.isRepeatable then
        progress.used.erase (.slot slot)
      else
        addTo progress.used (.slot slot)
  | _ => progress.used

/-- A path is given or pending. -/
def hasPath (progress : Progress) : Bool :=
  progress.used.contains (.slot .path) || progress.pending.any (·.1 == .path)

/-- Reads a flag. -/
def readFlag (progress : Progress) (flag : Flag) : Except Refusal Progress := do
  (← progress.settle).addFlag flag

/-- Reads the name or letter of a parameter and the value attached to it, if
there is one. -/
def readSlot (progress : Progress) (slot : Slot) (value : Option String) :
    Except Refusal Progress := do
  let progress ← progress.settle
  match value with
  | some value => progress.addSlot slot value
  | none => return { progress with pending := some (slot, none) }

/-- The complaint about a name that no parameter has. -/
def unknownName (progress : Progress) (name : String) : Refusal :=
  let alike := (Text.closest? name (Parameter.named.filterMap Parameter.long?)).bind Parameter.ofLong?
  let used := progress.usedWithPending
  .nameUnknown name alike (alike.elim used (addTo used))

/-- Reads a name behind two dashes and the value attached to it. -/
def readLong (progress : Progress) (name : String) (value : Option String) :
    Except Refusal Progress :=
  match Parameter.ofLong? name with
  | some (.slot slot) => progress.readSlot slot value
  | some (.flag flag) =>
      match value with
      | none => progress.readFlag flag
      | some value => .error (.valueUnneeded flag value progress.used.isEmpty)
  | none => .error (progress.unknownName name)

/-- The value attached to a letter: what follows, perhaps behind an equals
sign. -/
def attached : List Char → Option String
  | [] => none
  | '=' :: value => some (.ofList value)
  | value => some (.ofList value)

/-- Reads letters behind one dash. -/
def readShort (progress : Progress) : List Char → Except Refusal Progress
  | [] => .ok progress
  | letter :: letters =>
      match Parameter.ofShort? letter with
      | some (.slot slot) => progress.readSlot slot (attached letters)
      | some (.flag flag) => do readShort (← progress.readFlag flag) letters
      | none => .error (.letterUnknown letter)

/-- Reads a path. -/
def readPath (progress : Progress) (value : String) : Except Refusal Progress := do
  if progress.hasPath then
    throw (.surplus value)
  let progress ← progress.settle
  return { progress with pending := some (.path, some value) }

/-- Reads an argument that is not spelled like a parameter. -/
def readValue (progress : Progress) (value : String) : Except Refusal Progress :=
  match progress.pending with
  | some (slot, none) => .ok { progress with pending := some (slot, some value) }
  | _ => progress.readPath value

/-- A name and what is behind the first equals sign. -/
def splitName (chars : List Char) : List Char × Option (List Char) :=
  match chars.dropWhile (· != '=') with
  | [] => (chars, none)
  | _ :: value => (chars.takeWhile (· != '='), some value)

/-- Reads an argument. -/
def readArgument (progress : Progress) (argument : String) : Except Refusal Progress :=
  match argument.toList with
  | '-' :: '-' :: chars =>
      let (name, value) := splitName chars
      progress.readLong (.ofList name) (value.map .ofList)
  | '-' :: letter :: letters => progress.readShort (letter :: letters)
  | _ => progress.readValue argument

/-- Reads arguments. -/
def readArguments (progress : Progress) : List String → Except Refusal Progress
  | [] => .ok progress
  | argument :: arguments => do
      if argument = "--" then
        arguments.foldlM readPath progress
      else
        readArguments (← progress.readArgument argument) arguments

/-- The parameters that exclude each other, in both orders. -/
def exclusions : List (Parameter × Parameter) := [
  (.slot .envFile, .flag .noEnvFile),
  (.flag .noEnvFile, .slot .envFile)]

/-- The first parameter with another one that excludes it. -/
def conflict? (used : List Parameter) : Option (Parameter × Parameter) :=
  used.findSome? fun parameter =>
    exclusions.find? fun (former, latter) => former == parameter && used.contains latter

/-- The command line that has been read. -/
def finish (progress : Progress) : Except Refusal CommandLine := do
  let progress ← progress.settle
  match conflict? progress.used with
  | some (former, latter) => throw (.conflict former latter (progress.used.erase latter))
  | none => return progress.line

end Progress

/-- Reads the arguments of the program. -/
def parse (arguments : List String) : Except Refusal CommandLine := do
  let progress ← ({} : Progress).readArguments arguments
  progress.finish

end CommandLine

end EnvAudit
