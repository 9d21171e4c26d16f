import EnvAudit.Config.Layers
import EnvAudit.Proofs.Except
import EnvAudit.Proofs.Text.Blank
import EnvAudit.Proofs.Text.Parts
import Mathlib.Data.List.Forall2

/-!
# What the layers say together

Settings are loaded if every layer makes sense for itself, whatever a higher layer gives, and if
what the layers give together is valid.  Every setting comes from the highest layer that has it.
-/

namespace EnvAudit

/-- A text is the name of a policy, among blanks and in letters of either case. -/
def ParseErrorPolicy.SpelledBy (policy : ParseErrorPolicy) (text : String) : Prop :=
  ∃ core, Text.Core text core ∧ core.toLower = policy.name

namespace Config

/-- A text separates extensions by commas, with blanks around them.  Where there are only
blanks, there is no extension. -/
def Enumerates (text : String) (extensions : List String) : Prop :=
  ∃ parts cores : List String, parts ≠ [] ∧ (∀ part ∈ parts, ',' ∉ part.toList) ∧
    text = ",".intercalate parts ∧ List.Forall₂ Text.Core parts cores ∧
    extensions = cores.filter (· ≠ "")

/-- There is a file at a path, and its text holds settings. -/
def FileGives (files : FileSystem) (path : String) (config : Config) : Prop :=
  files.isFile path = true ∧ ∃ text, files.readText path = .ok text ∧ ofToml text = .ok config

/-- What the settings file gives.  One that is named has to be there; the one at the root, which
counts if none is named, need not be there. -/
inductive ProjectGives (files : FileSystem) (root : String) : Option String → Config → Prop
  | named {path : String} {config : Config} (gives : FileGives files path config) :
      ProjectGives files root (some path) config
  | usual {config : Config} (gives : FileGives files (Path.join root projectFile) config) :
      ProjectGives files root none config
  | absent (missing : files.isFile (Path.join root projectFile) = false) :
      ProjectGives files root none {}

/-- The settings that variables can hold. -/
structure Variables where
  extensions : Option (List String)
  emptyIsMissing : Option Bool
  onParseError : Option ParseErrorPolicy
  envFile : Option String

/-- What the variables of an environment give.  Those that are set have to make sense. -/
structure VariablesGive (environment : Environment) (assigned : Variables) : Prop where
  extensions : Option.Rel Enumerates (environment.get? "ENVCHECK_EXTENSIONS") assigned.extensions
  emptyIsMissing : Option.Rel (fun text flag => text = if flag then "true" else "false")
    (environment.get? "ENVCHECK_EMPTY_IS_MISSING") assigned.emptyIsMissing
  onParseError : Option.Rel (fun text policy => policy.SpelledBy text)
    (environment.get? "ENVCHECK_ON_PARSE_ERROR") assigned.onParseError
  envFile : assigned.envFile = environment.get? "ENVCHECK_ENV_FILE"

/-- Every setting comes from the highest layer that has it: from the command line, else from the
variables, else from the settings file.  Only the patterns of the command line come after those
of the file. -/
structure Resolved (overrides : Option Overrides) (assigned : Variables)
    (project config : Config) : Prop where
  extensions : config.scan.extensions =
    (overrides.bind Overrides.extensions <|> assigned.extensions).getD project.scan.extensions
  extraIgnore : config.scan.extraIgnore =
    project.scan.extraIgnore ++ (overrides.map Overrides.extraIgnore).getD []
  ignoreFiles : config.scan.ignoreFiles = project.scan.ignoreFiles
  maxFileSize : config.scan.maxFileSize = project.scan.maxFileSize
  emptyIsMissing : config.check.emptyIsMissing =
    (overrides.bind Overrides.emptyIsMissing <|> assigned.emptyIsMissing <|>
      project.check.emptyIsMissing)
  onParseError : config.check.onParseError =
    (overrides.bind Overrides.onParseError <|> assigned.onParseError <|>
      project.check.onParseError)
  envFile : config.env.file =
    (overrides.bind Overrides.envFile <|> assigned.envFile <|> project.env.file)
  loadEnvFile : config.env.load =
    (overrides.bind Overrides.loadEnvFile <|> project.env.load)

attribute [ext] ScanConfig CheckConfig EnvFileConfig Config

section Variables

variable {name text : String}

theorem enumerates_iff {extensions : List String} :
    Enumerates text extensions ↔ extensionsOfText text = extensions := by
  have trims {parts cores : List String} :
      List.Forall₂ Text.Core parts cores ↔ parts.map Text.trim = cores := by
    have isTrim : Text.Core = fun part core => Text.trim part = core := by
      funext part core
      exact propext Text.core_iff
    rw [isTrim, ← List.forall₂_map_left_iff, List.forall₂_eq_eq_eq]
  constructor
  · rintro ⟨parts, cores, nonempty, free, joint, trimmed, rfl⟩
    have isSplit : Text.split ',' text = parts := Text.split_eq_iff.mpr ⟨nonempty, free, joint⟩
    rw [extensionsOfText, isSplit, trims.mp trimmed]
  · rintro rfl
    obtain ⟨nonempty, free, joint⟩ := Text.split_eq_iff.mp (rfl : Text.split ',' text = _)
    exact ⟨_, _, nonempty, free, joint, trims.mpr rfl, rfl⟩

theorem readFlag_eq_ok_iff {flag : Bool} :
    readFlag name text = .ok flag ↔ text = if flag then "true" else "false" := by
  constructor
  · intro reads
    unfold readFlag at reads
    split at reads
    · cases reads
      rfl
    · cases reads
      rfl
    · cases reads
  · rintro rfl
    cases flag <;> rfl

theorem ofText_eq_ok_iff {policy : ParseErrorPolicy} :
    ParseErrorPolicy.ofText text = .ok policy ↔ policy.SpelledBy text := by
  have spelled : policy.SpelledBy text ↔ (Text.trim text).toLower = policy.name := by
    simp [ParseErrorPolicy.SpelledBy, Text.core_iff]
  rw [spelled, ParseErrorPolicy.ofText]
  split
  · rename_i isAbort
    cases policy <;> simp [isAbort, ParseErrorPolicy.name]
  · split
    · rename_i isSkip
      cases policy <;> simp [isSkip, ParseErrorPolicy.name]
    · cases policy <;> simp_all

theorem readPolicy_eq_ok_iff {policy : ParseErrorPolicy} :
    readPolicy name text = .ok policy ↔ policy.SpelledBy text := by
  rw [readPolicy, mapError_eq_ok_iff, ofText_eq_ok_iff]

end Variables

section Project

variable {files : FileSystem} {root path : String} {config : Config}

theorem ofFile_eq_ok_iff : ofFile files path = .ok config ↔
    ∃ text, files.readText path = .ok text ∧ ofToml text = .ok config := by
  rw [ofFile]
  cases files.readText path with
  | error failure => simp
  | ok text => simp [ofToml, mapError_eq_ok_iff]

theorem fileGives_iff : FileGives files path config ↔
    (if files.isFile path then ofFile files path else .error (.fileNotFound path)) =
      .ok config := by
  rw [FileGives, ← ofFile_eq_ok_iff]
  cases files.isFile path with
  | true => simp
  | false => simp

theorem ofProject_eq_ok_iff {named : Option String} :
    ofProject files root named = .ok config ↔ ProjectGives files root named config := by
  rw [ofProject]
  cases named with
  | some path =>
      have isNamed : file? files root (some path) = some path := rfl
      rw [isNamed]
      constructor
      · exact fun reads => .named (fileGives_iff.mpr reads)
      · rintro (gives | _)
        exact fileGives_iff.mp gives
  | none =>
      cases known : files.isFile (Path.join root projectFile) with
      | true =>
          have isUsual : file? files root none = some (Path.join root projectFile) := by
            rw [file?, known]
            rfl
          rw [isUsual]
          constructor
          · exact fun reads => .usual (fileGives_iff.mpr reads)
          · rintro (_ | gives | missing)
            · exact fileGives_iff.mp gives
            · cases known.symm.trans missing
      | false =>
          have isNone : file? files root none = none := by
            rw [file?, known]
            rfl
          rw [isNone]
          constructor
          · rintro ⟨⟩
            exact .absent known
          · rintro (_ | ⟨isThere, _⟩ | _)
            · cases known.symm.trans isThere
            · rfl

end Project

section Layers

variable {environment : Environment} {assigned : Variables} {overrides : Option Overrides}
variable {project middle config other : Config}

/-- The layers leave no setting open. -/
theorem Resolved.unique (first : Resolved overrides assigned project config)
    (second : Resolved overrides assigned project other) : config = other := by
  have scan : config.scan = other.scan :=
    ScanConfig.ext (first.extensions.trans second.extensions.symm)
      (first.extraIgnore.trans second.extraIgnore.symm)
      (first.ignoreFiles.trans second.ignoreFiles.symm)
      (first.maxFileSize.trans second.maxFileSize.symm)
  have check : config.check = other.check :=
    CheckConfig.ext (first.emptyIsMissing.trans second.emptyIsMissing.symm)
      (first.onParseError.trans second.onParseError.symm)
  have env : config.env = other.env :=
    EnvFileConfig.ext (first.envFile.trans second.envFile.symm)
      (first.loadEnvFile.trans second.loadEnvFile.symm)
  exact Config.ext scan check env

theorem rel_enumerates_iff {given : Option String} {result : Option (List String)} :
    Option.Rel Enumerates given result ↔ given.map extensionsOfText = result := by
  constructor
  · rintro (enumerates | _)
    · exact congrArg some (enumerates_iff.mp enumerates)
    · rfl
  · rintro rfl
    cases given with
    | none => exact .none
    | some text => exact .some (enumerates_iff.mpr rfl)

/-- The settings after what variables give. -/
def Variables.over (assigned : Variables) (config : Config) : Config where
  scan := { config.scan with extensions := assigned.extensions.getD config.scan.extensions }
  check := {
    emptyIsMissing := assigned.emptyIsMissing <|> config.check.emptyIsMissing
    onParseError := assigned.onParseError <|> config.check.onParseError }
  env := { config.env with file := assigned.envFile <|> config.env.file }

theorem withVariables_eq_ok_iff : withVariables environment project = .ok config ↔
    ∃ assigned, VariablesGive environment assigned ∧ assigned.over project = config := by
  constructor
  · intro read
    obtain ⟨flag, flagRead, read⟩ := bind_eq_ok_iff.mp read
    obtain ⟨policy, policyRead, ⟨⟩⟩ := bind_eq_ok_iff.mp read
    simp only [mapM_eq_ok_iff, readFlag_eq_ok_iff, readPolicy_eq_ok_iff] at flagRead policyRead
    exact ⟨⟨_, flag, policy, _⟩, ⟨rel_enumerates_iff.mpr rfl, flagRead, policyRead, rfl⟩, rfl⟩
  · rintro ⟨⟨_, flag, policy, _⟩, ⟨extensions, flagGiven, policyGiven, rfl⟩, rfl⟩
    obtain rfl := rel_enumerates_iff.mp extensions
    refine bind_eq_ok_iff.mpr ⟨flag, ?_, bind_eq_ok_iff.mpr ⟨policy, ?_, rfl⟩⟩
    · simpa only [mapM_eq_ok_iff, readFlag_eq_ok_iff] using flagGiven
    · simpa only [mapM_eq_ok_iff, readPolicy_eq_ok_iff] using policyGiven

/-- The command line over the variables over the settings file settles every setting. -/
theorem resolved_over (overrides : Option Overrides) (assigned : Variables) (project : Config) :
    Resolved overrides assigned project
      (withOverrides (overrides.getD {}) (assigned.over project)) := by
  cases overrides with
  | none => constructor <;> rfl
  | some given =>
      refine ⟨?_, rfl, rfl, rfl, rfl, rfl, rfl, rfl⟩
      obtain ⟨extensions⟩ := given
      cases extensions with
      | none => rfl
      | some extensions => rfl

theorem resolved_iff : Resolved overrides assigned project config ↔
    withOverrides (overrides.getD {}) (assigned.over project) = config := by
  constructor
  · exact (resolved_over overrides assigned project).unique
  · rintro rfl
    exact resolved_over overrides assigned project

/-- Variables that enumerate no extension stand for all of them, whatever the settings file
gives, unless the command line names some. -/
theorem Resolved.effectiveExtensions_of_none
    (resolved : Resolved overrides assigned project config)
    (unnamed : overrides.bind Overrides.extensions = none)
    (empty : assigned.extensions = some []) :
    config.scan.effectiveExtensions = ScanConfig.supportedExtensions := by
  have none : config.scan.extensions = [] := by
    rw [resolved.extensions, unnamed, empty]
    rfl
  rw [ScanConfig.effectiveExtensions, none]
  rfl

theorem load_eq_ok_iff {files : FileSystem} {root : String} {named : Option String} :
    load files root named environment (overrides.getD {}) = .ok config ↔
      ∃ project assigned, ProjectGives files root named project ∧
        VariablesGive environment assigned ∧ Resolved overrides assigned project config ∧
        config.validate = .ok () := by
  constructor
  · intro loaded
    obtain ⟨project, projectRead, loaded⟩ := bind_eq_ok_iff.mp loaded
    obtain ⟨middle, variablesRead, loaded⟩ := bind_eq_ok_iff.mp loaded
    obtain ⟨_, valid, ⟨⟩⟩ := bind_eq_ok_iff.mp loaded
    rw [merge_default] at variablesRead
    obtain ⟨assigned, gives, rfl⟩ := withVariables_eq_ok_iff.mp variablesRead
    exact ⟨project, assigned, ofProject_eq_ok_iff.mp projectRead, gives,
      resolved_over overrides assigned project, valid⟩
  · rintro ⟨project, assigned, projectGives, gives, resolved, valid⟩
    obtain rfl := resolved_iff.mp resolved
    have variablesRead : withVariables environment (merge {} project) =
        .ok (assigned.over project) := by
      rw [merge_default]
      exact withVariables_eq_ok_iff.mpr ⟨assigned, gives, rfl⟩
    exact bind_eq_ok_iff.mpr ⟨project, ofProject_eq_ok_iff.mpr projectGives,
      bind_eq_ok_iff.mpr ⟨_, variablesRead, bind_eq_ok_iff.mpr ⟨(), valid, rfl⟩⟩⟩

end Layers

/-- Loading settings succeeds if the settings file and the variables make sense, even where a
higher layer wins over them, and if the result is valid, even where a lower layer alone is not.
Every setting of the result comes from the highest layer that has it. -/
theorem load_meaning (files : FileSystem) (root : String) (named : Option String)
    (environment : Environment) (overrides : Option Overrides) (config : Config) :
    (load files root named environment (overrides.getD {}) = .ok config ↔
      ∃ project assigned, ProjectGives files root named project ∧
        VariablesGive environment assigned ∧ Resolved overrides assigned project config ∧
        config.validate = .ok ()) ∧
      ∀ text, environment.get? "ENVCHECK_EXTENSIONS" = some text → Enumerates text [] →
        overrides.bind Overrides.extensions = none →
        load files root named environment (overrides.getD {}) = .ok config →
        config.scan.effectiveExtensions = ScanConfig.supportedExtensions := by
  refine ⟨load_eq_ok_iff, fun text isSet none unnamed loaded => ?_⟩
  obtain ⟨project, assigned, _, gives, resolved, _⟩ := load_eq_ok_iff.mp loaded
  have empty : assigned.extensions = some [] := by
    rw [← rel_enumerates_iff.mp gives.extensions, isSet, Option.map_some, enumerates_iff.mp none]
  exact resolved.effectiveExtensions_of_none unnamed empty

end Config

end EnvAudit
