import EnvAudit.Config.Decode
import EnvAudit.Environment
import EnvAudit.Files.Tree

/-!
# Layers of settings

Settings come in layers: the defaults, the settings file of a project,
variables of the environment, and what the command line says.  A later layer
wins over an earlier one.
-/

namespace EnvAudit

/-- What the command line says about settings. -/
structure Overrides where
  extensions : Option (List String) := none
  /-- Patterns that come after those of the earlier layers. -/
  extraIgnore : List String := []
  emptyIsMissing : Option Bool := none
  onParseError : Option ParseErrorPolicy := none
  envFile : Option String := none
  loadEnvFile : Option Bool := none
  deriving BEq, DecidableEq, Repr, Inhabited

namespace Config

/-- The name of a project's settings file. -/
def projectFile : String := "envcheck.toml"

/-- The settings in a file. -/
def ofFile (files : FileSystem) (path : String) : Except ConfigError Config :=
  match files.readText path with
  | .error _ => .error (.fileNotFound path)
  | .ok text => (readToml text).mapError (.malformed path)

/-- The settings file: the one that is named, or else the one at the root, if there
is one. -/
def file? (files : FileSystem) (root : String) (named : Option String) : Option String :=
  let path := Path.join root projectFile
  named <|> if files.isFile path then some path else none

/-- The settings in the settings file.  One that is named has to exist. -/
def ofProject (files : FileSystem) (root : String) (named : Option String) :
    Except ConfigError Config :=
  match file? files root named with
  | some path => if files.isFile path then ofFile files path else .error (.fileNotFound path)
  | none => .ok {}

/-- The extensions in a text that separates them by commas. -/
def extensionsOfText (text : String) : List String :=
  ((Text.split ',' text).map Text.trim).filter fun extension => extension ≠ ""

/-- The truth value that a variable spells out. -/
def readFlag (name value : String) : Except ConfigError Bool :=
  match value with
  | "true" => .ok true
  | "false" => .ok false
  | _ => .error (.invalid name s!"expected true or false, got {Text.quoted value}")

/-- The policy that a variable names. -/
def readPolicy (name value : String) : Except ConfigError ParseErrorPolicy :=
  (ParseErrorPolicy.ofText value).mapError fun unknown => .invalid name unknown.message

/-- The settings after those in the variables of an environment. -/
def withVariables (environment : Environment) (config : Config) : Except ConfigError Config := do
  let extensions := (environment.get? "ENVCHECK_EXTENSIONS").map extensionsOfText
  let flag := "ENVCHECK_EMPTY_IS_MISSING"
  let emptyIsMissing ← (environment.get? flag).mapM (readFlag flag)
  let policy := "ENVCHECK_ON_PARSE_ERROR"
  let onParseError ← (environment.get? policy).mapM (readPolicy policy)
  let file := environment.get? "ENVCHECK_ENV_FILE"
  return {
    scan := { config.scan with extensions := extensions.getD config.scan.extensions }
    check := {
      emptyIsMissing := emptyIsMissing <|> config.check.emptyIsMissing
      onParseError := onParseError <|> config.check.onParseError }
    env := { config.env with file := file <|> config.env.file } }

/-- The settings after what the command line says. -/
def withOverrides (overrides : Overrides) (config : Config) : Config where
  scan := { config.scan with
    extensions := overrides.extensions.getD config.scan.extensions
    extraIgnore := config.scan.extraIgnore ++ overrides.extraIgnore }
  check := {
    emptyIsMissing := overrides.emptyIsMissing <|> config.check.emptyIsMissing
    onParseError := overrides.onParseError <|> config.check.onParseError }
  env := {
    file := overrides.envFile <|> config.env.file
    load := overrides.loadEnvFile <|> config.env.load }

/-- The settings that all layers give together, which have to make sense. -/
def load (files : FileSystem) (root : String) (named : Option String)
    (environment : Environment) (overrides : Overrides) : Except ConfigError Config := do
  let project ← ofProject files root named
  let config ← withVariables environment (merge {} project)
  let config := withOverrides overrides config
  config.validate
  return config

theorem withOverrides_default (config : Config) : withOverrides {} config = config := by
  obtain ⟨⟨extensions, extra, ignoreFiles, size⟩, ⟨empty, policy⟩, ⟨file, load⟩⟩ := config
  simp [withOverrides]

end Config

end EnvAudit
