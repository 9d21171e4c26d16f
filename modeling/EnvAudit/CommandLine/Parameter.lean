/-!
# Parameters of the command line

Flags stand for themselves, and slots take a value.  The path is the only slot
without a name.
-/

namespace EnvAudit

namespace CommandLine

/-- A parameter without a value. -/
inductive Flag where
  | noEnvFile
  | emptyIsSet
  | skipUnparsable
  | verbose
  | help
  | version
  deriving BEq, DecidableEq, Repr, Inhabited

/-- A parameter with a value. -/
inductive Slot where
  | path
  | envFile
  | format
  | ignore
  | ext
  | config
  deriving BEq, DecidableEq, Repr, Inhabited

/-- Something that a command line can set. -/
inductive Parameter where
  | flag (flag : Flag)
  | slot (slot : Slot)
  deriving BEq, DecidableEq, Repr, Inhabited

namespace Flag

/-- The name behind two dashes. -/
def long : Flag → String
  | noEnvFile => "no-env-file"
  | emptyIsSet => "empty-is-set"
  | skipUnparsable => "skip-unparsable"
  | verbose => "verbose"
  | help => "help"
  | version => "version"

/-- The letter behind one dash. -/
def short? : Flag → Option Char
  | verbose => some 'v'
  | help => some 'h'
  | version => some 'V'
  | noEnvFile | emptyIsSet | skipUnparsable => none

end Flag

namespace Slot

/-- The name behind two dashes. -/
def long? : Slot → Option String
  | path => none
  | envFile => some "env-file"
  | format => some "format"
  | ignore => some "ignore"
  | ext => some "ext"
  | config => some "config"

/-- The letter behind one dash. -/
def short? : Slot → Option Char
  | config => some 'c'
  | path | envFile | format | ignore | ext => none

/-- What stands for the value where the parameter is shown. -/
def placeholder : Slot → String
  | path => "PATH"
  | envFile | config => "FILE"
  | format => "FORMAT"
  | ignore => "PATTERN"
  | ext => "EXT"

/-- The parameter may be given more than once. -/
def isRepeatable : Slot → Bool
  | ignore | ext => true
  | path | envFile | format | config => false

/-- The values that the parameter may have, if they are limited. -/
def choices : Slot → List String
  | format => ["human", "json"]
  | path | envFile | ignore | ext | config => []

end Slot

namespace Parameter

/-- The parameters with a name, in the order in which they are shown. -/
def named : List Parameter := [
  .slot .envFile,
  .flag .noEnvFile,
  .slot .format,
  .slot .ignore,
  .slot .ext,
  .flag .emptyIsSet,
  .flag .skipUnparsable,
  .slot .config,
  .flag .verbose,
  .flag .help,
  .flag .version]

def long? : Parameter → Option String
  | flag chosen => some chosen.long
  | slot chosen => chosen.long?

def short? : Parameter → Option Char
  | flag chosen => chosen.short?
  | slot chosen => chosen.short?

/-- The parameter may be given more than once. -/
def isRepeatable : Parameter → Bool
  | flag _ => false
  | slot chosen => chosen.isRepeatable

/-- A parameter as it is shown to people. -/
def shown : Parameter → String
  | flag chosen => s!"--{chosen.long}"
  | slot chosen =>
      match chosen.long? with
      | none => s!"[{chosen.placeholder}]"
      | some long => s!"--{long} <{chosen.placeholder}>"

/-- The parameters that a run may have; the others ask for a text instead. -/
def alternatives : List Parameter :=
  .slot .path :: named.filter fun parameter =>
    parameter ≠ .flag .help && parameter ≠ .flag .version

/-- A parameter as it is shown where it must be given or is one of several. -/
def shownBare : Parameter → String
  | slot .path => Slot.path.placeholder
  | parameter => parameter.shown

/-- What the parameter is for. -/
def purpose : Parameter → String
  | slot .path => "Directory to scan (defaults to the current directory)"
  | slot .envFile => "Dotenv file to load before checking (default: .env)"
  | flag .noEnvFile => "Do not load any dotenv file"
  | slot .format => "Report format [default: human] [possible values: human, json]"
  | slot .ignore => "Extra gitignore-style pattern to skip (repeatable)"
  | slot .ext => "Source extensions to scan, comma separated (e.g. js,ts)"
  | flag .emptyIsSet => "Treat variables set to the empty string as present"
  | flag .skipUnparsable => "Skip files that fail to parse instead of aborting"
  | slot .config => "Config file (overrides envcheck.toml in the scan root)"
  | flag .verbose => "Log progress to stderr"
  | flag .help => "Print help"
  | flag .version => "Print version"

/-- The parameter with the given name. -/
def ofLong? (name : String) : Option Parameter :=
  named.find? fun parameter => parameter.long? = some name

/-- The parameter with the given letter. -/
def ofShort? (letter : Char) : Option Parameter :=
  named.find? fun parameter => parameter.short? = some letter

theorem mem_named (parameter : Parameter) : parameter = slot .path ∨ parameter ∈ named := by
  rcases parameter with chosen | chosen
  · cases chosen <;> simp [named]
  · cases chosen <;> simp [named]

theorem ofLong?_long {parameter : Parameter} {name : String}
    (long : parameter.long? = some name) : ofLong? name = some parameter := by
  rcases parameter with chosen | chosen
  · cases chosen <;> cases long <;> decide
  · cases chosen <;> cases long <;> decide

end Parameter

end CommandLine

end EnvAudit
