import EnvAudit.Config.Basic
import EnvAudit.Toml.Written

/-!
# Writing settings in TOML

Each group of settings is a table, and each setting that is given a line in it.
A list of more than one text has a line for each.
-/

namespace EnvAudit

namespace Config

/-- The greatest number that can be written. -/
def maxInteger : Nat := 9223372036854775807

/-- The path that stands for a text that is being written. -/
def writtenText : String := "<serialization>"

/-- A list of texts. -/
def writeStrings : List String → List Char
  | [] => ['[', ']']
  | [text] => '[' :: Toml.writeString text.toList ++ [']']
  | texts =>
      ['[', '\n'] ++
        texts.flatMap (fun text =>
          [' ', ' ', ' ', ' '] ++ Toml.writeString text.toList ++ [',', '\n']) ++ [']']

/-- A line that sets something. -/
def writeLine (name : String) (value : List Char) : List Char :=
  name.toList ++ [' ', '=', ' '] ++ value ++ ['\n']

/-- A line that sets something, if it is given. -/
def writeOption {α : Type} (name : String) (write : α → List Char) : Option α → List Char
  | none => []
  | some value => writeLine name (write value)

def writeHeader (name : String) : List Char :=
  '[' :: name.toList ++ [']', '\n']

def writeBool (value : Bool) : List Char :=
  (if value then "true" else "false").toList

def writeText (value : String) : List Char :=
  Toml.writeString value.toList

/-- The lines of all settings. -/
def writeToml (config : Config) : List Char :=
  writeHeader "scan" ++
    writeLine "extensions" (writeStrings config.scan.extensions) ++
    writeLine "extra_ignore" (writeStrings config.scan.extraIgnore) ++
    writeLine "ignore_files" (writeStrings config.scan.ignoreFiles) ++
    writeOption "max_file_size" (Nat.toDigits 10) config.scan.maxFileSize ++
    '\n' :: writeHeader "check" ++
    writeOption "empty_is_missing" writeBool config.check.emptyIsMissing ++
    writeOption "on_parse_error" (fun policy => writeText policy.name)
      config.check.onParseError ++
    '\n' :: writeHeader "env" ++
    writeOption "file" writeText config.env.file ++
    writeOption "load" writeBool config.env.load

/-- The text that gives the settings.  A number that is too large cannot be
written. -/
def toToml (config : Config) : Except ConfigError String :=
  if config.scan.maxFileSize.any (maxInteger < ·) then
    .error (.malformed writtenText "out-of-range value for u64 type")
  else
    .ok (.ofList (writeToml config))

end Config

end EnvAudit
