import EnvAudit.Error
import EnvAudit.Policy
import EnvAudit.Text.Parts

/-!
# Settings

The settings of a check: what is scanned, how it is judged, and which file adds
variables to the environment.  A setting that is not given has a default.
-/

namespace EnvAudit

/-- What is scanned. -/
structure ScanConfig where
  /-- The extensions of the files to read; none stands for all. -/
  extensions : List String := []
  /-- Patterns that come after those of the ignore files. -/
  extraIgnore : List String := []
  /-- The names of the ignore files; none stands for the usual ones. -/
  ignoreFiles : List String := []
  /-- The greatest size of a file to read. -/
  maxFileSize : Option Nat := none
  deriving BEq, DecidableEq, Repr, Inhabited

/-- How the findings are judged. -/
structure CheckConfig where
  emptyIsMissing : Option Bool := none
  onParseError : Option ParseErrorPolicy := none
  deriving BEq, DecidableEq, Repr, Inhabited

/-- Which file adds variables to the environment. -/
structure EnvFileConfig where
  file : Option String := none
  load : Option Bool := none
  deriving BEq, DecidableEq, Repr, Inhabited

/-- All settings. -/
structure Config where
  scan : ScanConfig := {}
  check : CheckConfig := {}
  env : EnvFileConfig := {}
  deriving BEq, DecidableEq, Repr, Inhabited

namespace ScanConfig

/-- The extensions that files may have. -/
def supportedExtensions : List String :=
  ["js", "jsx", "mjs", "cjs", "ts", "tsx", "mts", "cts"]

/-- The ignore files that are read unless others are named. -/
def usualIgnoreFiles : List String :=
  [".gitignore", ".envcheckignore"]

/-- The greatest size of a file unless another is given: ten mebibytes. -/
def usualMaxFileSize : Nat :=
  10 * 1024 * 1024

/-- An extension in lowercase, without blanks around it and dots before it. -/
def normalExtension (extension : String) : String :=
  (String.ofList ((Text.trimChars extension.toList).dropWhile (· == '.'))).toLower

def effectiveExtensions (config : ScanConfig) : List String :=
  if config.extensions.isEmpty then
    supportedExtensions
  else
    config.extensions.map normalExtension

def effectiveIgnoreFiles (config : ScanConfig) : List String :=
  if config.ignoreFiles.isEmpty then usualIgnoreFiles else config.ignoreFiles

def effectiveMaxFileSize (config : ScanConfig) : Nat :=
  config.maxFileSize.getD usualMaxFileSize

end ScanConfig

namespace CheckConfig

def effectiveEmptyPolicy (config : CheckConfig) : EmptyValuePolicy :=
  if config.emptyIsMissing.getD true then .missing else .present

def effectiveParseErrorPolicy (config : CheckConfig) : ParseErrorPolicy :=
  config.onParseError.getD .abort

end CheckConfig

namespace EnvFileConfig

/-- The file unless another is named. -/
def usualFile : String := ".env"

def effectiveFile (config : EnvFileConfig) : String :=
  config.file.getD usualFile

def effectiveLoad (config : EnvFileConfig) : Bool :=
  config.load.getD true

end EnvFileConfig

namespace Config

/-- The error about an extension that files may not have. -/
def unsupportedExtension (extension : String) : ConfigError :=
  let supported := ", ".intercalate ScanConfig.supportedExtensions
  .invalid "scan.extensions"
    s!"unsupported extension {Text.quoted extension} (expected one of {supported})"

/-- Settings that make no sense are refused. -/
def validate (config : Config) : Except ConfigError Unit :=
  if config.scan.maxFileSize = some 0 then
    .error (.invalid "scan.max_file_size" "must be greater than 0")
  else
    match config.scan.effectiveExtensions.find? fun extension =>
        !ScanConfig.supportedExtensions.contains extension with
    | some extension => .error (unsupportedExtension extension)
    | none =>
        if config.env.file.any fun file => Text.trim file = "" then
          .error (.invalid "env.file" "must not be empty")
        else
          .ok ()

/-- A list unless it is empty. -/
def orElseList (list others : List String) : List String :=
  if list.isEmpty then others else list

/-- Settings with those that are given in `later` in the place of their own. -/
def merge (base later : Config) : Config where
  scan := {
    extensions := orElseList later.scan.extensions base.scan.extensions
    extraIgnore := orElseList later.scan.extraIgnore base.scan.extraIgnore
    ignoreFiles := orElseList later.scan.ignoreFiles base.scan.ignoreFiles
    maxFileSize := later.scan.maxFileSize <|> base.scan.maxFileSize }
  check := {
    emptyIsMissing := later.check.emptyIsMissing <|> base.check.emptyIsMissing
    onParseError := later.check.onParseError <|> base.check.onParseError }
  env := {
    file := later.env.file <|> base.env.file
    load := later.env.load <|> base.env.load }

theorem merge_default (config : Config) : merge {} config = config := by
  obtain ⟨⟨extensions, extra, ignoreFiles, size⟩, ⟨empty, policy⟩, ⟨file, load⟩⟩ := config
  cases extensions <;> cases extra <;> cases ignoreFiles <;> cases size <;> cases empty <;>
    cases policy <;> cases file <;> cases load <;> rfl

end Config

end EnvAudit
