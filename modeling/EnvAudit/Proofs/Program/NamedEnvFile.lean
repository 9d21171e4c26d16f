import EnvAudit.Proofs.CommandLine.Reading
import EnvAudit.Proofs.Config.RoundTrip
import EnvAudit.Proofs.Program.EnvFile

/-!
# The environment file that the command line names

A name on the command line wins over those of all other layers.  Whether the file is loaded at
all is a setting of its own, which the command line can only turn off.  So the run loads the
file or stops there, but where a settings file turns loading off, the name makes no difference.
-/

namespace EnvAudit

theorem EnvFileConfig.effectiveFile_of_file {settings : EnvFileConfig} {name : String}
    (naming : settings.file = some name) : settings.effectiveFile = name := by
  rw [effectiveFile, naming]
  rfl

namespace Config

variable {files : FileSystem} {root : String} {named : Option String}
variable {environment : Environment} {overrides : Overrides} {config other : Config}

/-- The command line's name is the one that counts, and unless the command line turns loading
off, the settings file decides about it. -/
theorem load_of_envFile {name : String}
    (loaded : load files root named environment overrides = .ok config)
    (naming : overrides.envFile = some name) (silent : overrides.loadEnvFile = none) :
    config.env.file = some name ∧
      ∃ project, ProjectGives files root named project ∧ config.env.load = project.env.load := by
  have fromLayers : load files root named environment ((some overrides).getD {}) = .ok config :=
    loaded
  obtain ⟨project, _, gives, _, resolved, _⟩ := load_eq_ok_iff.mp fromLayers
  have file := resolved.envFile
  have isLoaded := resolved.loadEnvFile
  simp only [Option.bind_some, naming] at file
  simp only [Option.bind_some, silent] at isLoaded
  exact ⟨file, project, gives, isLoaded⟩

/-- Another name of the environment file changes no other setting. -/
theorem load_renaming {given : Option String}
    (loaded : load files root named environment overrides = .ok config)
    (renamed : load files root named environment { overrides with envFile := given } = .ok other) :
    other.scan = config.scan ∧ other.check = config.check ∧ other.env.load = config.env.load := by
  obtain ⟨base, rfl, rfl⟩ := load_over loaded renamed
  exact ⟨rfl, rfl, rfl⟩

/-- The settings about the environment file are read from a text that has no others. -/
theorem readToml_writeTables_env (env : EnvFileConfig) :
    readToml (.ofList (Toml.writeTables (envTable env) [])) = .ok { env } := by
  obtain ⟨entries, reads, hold⟩ := Toml.ofText_writeTables (envTable env) []
    (List.forall_mem_singleton.mpr (proper_envTable env)) (List.nodup_singleton _)
  have decoded : decodeEntries configGroup entries {} = .ok { env } := by
    cases hold with
    | @cons _ entry _ _ holds hold =>
    cases hold
    obtain ⟨⟨_, _⟩, _⟩ := entry
    obtain ⟨rfl, _, _, rfl, holds⟩ := holds
    have sets := decodeEntries_of_hold (setsAll_envTable env) holds
    exact decodeEntries_cons rfl (bind_eq_ok_iff.mpr ⟨env, sets, rfl⟩) rfl
  rw [readToml, reads]
  simp only [decoded]

end Config

namespace Program

/-- What is said of an environment file that cannot be loaded. -/
def loadComplaint (name : String) (fault : EnvFile.Fault) : String :=
  ": ".intercalate (s!"failed to load {name}" :: fault.chain)

/-- What is said of an environment file that is not there. -/
def absenceComplaint (name : String) : String :=
  s!"env file {name} not found"

/-- A run shows the check of an environment. -/
def ShowsCheck (files : FileSystem) (line : CommandLine) (config : Config)
    (environment : Environment) (durationMs : Nat) (outcome : Outcome) : Prop :=
  let root := rootOf files.workingDirectory line
  let shown := present files line.format root (Check.run config files root environment durationMs)
  outcome.Shows shown.exitCode shown.stdout shown.stderr

/-- A run takes account of a named environment file.  Either the check sees the environment with
the assignments of the file, or the run fails and says what is wrong with the file, or it breaks
off at a value for a gap that no variable can have. -/
inductive Heeds (files : FileSystem) (line : CommandLine) (environment : Environment)
    (config : Config) (name : String) (durationMs : Nat) (outcome : Outcome) : Prop
  | loaded {content : ByteArray} {bindings : List (String × String)} {filled : Environment}
      (isFile : files.isFile name = true) (read : files.read name = .ok content)
      (known : EnvFile.bindings environment content = .ok bindings)
      (fills : environment.FilledBy bindings filled)
      (shows : ShowsCheck files line config filled durationMs outcome)
  | faulty {fault : EnvFile.Fault} (isFile : files.isFile name = true)
      (fails : EnvFile.load files name environment = .error fault)
      (shows : outcome.Shows exitFailure "" s!"error: {loadComplaint name fault}\n")
  | crashed {gap value : String} (isFile : files.isFile name = true)
      (fails : EnvFile.load files name environment = .error (.unsettable gap value))
      (isGap : environment.get? gap = none) (unsettable : EnvFile.isSettable value = false)
      (shows : outcome.Shows exitCrash "" ((EnvFile.Fault.unsettable gap value).message ++ "\n"))
  | missing (absent : files.isFile name = false)
      (shows : outcome.Shows exitFailure "" s!"error: {absenceComplaint name}\n")

section Runs

variable {files : FileSystem} {line : CommandLine} {environment : Environment}
variable {config other : Config} {settings : EnvFileConfig} {name : String}

theorem ofEnvFile_unwanted (unwanted : settings.effectiveLoad = false) :
    ofEnvFile files settings = [] := by
  simp [ofEnvFile, unwanted]

theorem loadEnvFile_absent (environment : Environment) (wanted : settings.effectiveLoad = true)
    (naming : settings.file = some name) (absent : files.isFile name = false) :
    loadEnvFile files settings environment = .error (.failure (absenceComplaint name)) := by
  have effective := EnvFileConfig.effectiveFile_of_file naming
  simp [loadEnvFile, absenceComplaint, wanted, effective, absent, naming]

theorem loadEnvFile_present (environment : Environment) (wanted : settings.effectiveLoad = true)
    (naming : settings.file = some name) (isFile : files.isFile name = true) :
    loadEnvFile files settings environment =
      (EnvFile.load files name environment).mapError (stopAt name) := by
  have effective := EnvFileConfig.effectiveFile_of_file naming
  simp [loadEnvFile, wanted, effective, isFile]

theorem heeds_runLine
    (configured : Config.load files (rootOf files.workingDirectory line) line.config environment
      line.overrides = .ok config)
    (naming : config.env.file = some name) (wanted : config.env.effectiveLoad = true)
    (durationMs : Nat) :
    Heeds files line environment config name durationMs
      (runLine files line environment durationMs) := by
  cases isFile : files.isFile name with
  | false =>
      have fails := loadEnvFile_absent environment wanted naming isFile
      exact .missing isFile (runLine_of_stop line configured fails durationMs)
  | true =>
      have loads := loadEnvFile_present environment wanted naming isFile
      cases ends : EnvFile.load files name environment with
      | error fault =>
          have fails : loadEnvFile files config.env environment = .error (stopAt name fault) := by
            rw [loads, ends]
            rfl
          have shows := runLine_of_stop line configured fails durationMs
          cases fault with
          | unreadable failure => exact .faulty isFile ends shows
          | malformed text index => exact .faulty isFile ends shows
          | unsettable gap value =>
              obtain ⟨isGap, unsettable⟩ := EnvFile.gap_of_load ends
              exact .crashed isFile ends isGap unsettable shows
      | ok filled =>
          have prepared : Prepared files line environment config filled :=
            ⟨configured, by rw [loads, ends]; rfl⟩
          obtain ⟨content, bindings, read, known, rfl⟩ := EnvFile.load_eq_ok ends
          exact .loaded isFile read known (environment.filledBy_fill bindings)
            (runLine_of_prepared prepared durationMs ⟨rfl, rfl, rfl⟩)

/-- Where nothing is to be loaded, it makes no difference which file the command line names, or
whether it names one. -/
theorem runLine_renaming {given : Option String}
    (configured : Config.load files (rootOf files.workingDirectory line) line.config environment
      line.overrides = .ok config)
    (unwanted : config.env.effectiveLoad = false)
    (renamed : Config.load files (rootOf files.workingDirectory line) line.config environment
      { line with envFile := given }.overrides = .ok other) (durationMs : Nat) :
    runLine files { line with envFile := given } environment durationMs =
      runLine files line environment durationMs := by
  obtain ⟨scan, check, isLoaded⟩ := Config.load_renaming configured renamed
  have stillUnwanted : other.env.effectiveLoad = false := by
    rw [EnvFileConfig.effectiveLoad, isLoaded]
    exact unwanted
  have sameCheck : Check.run other files (rootOf files.workingDirectory line) environment
      durationMs = Check.run config files (rootOf files.workingDirectory line) environment
        durationMs := by
    obtain ⟨otherScan, otherCheck, otherEnv⟩ := other
    cases scan
    cases check
    rfl
  have sameRoot : rootOf files.workingDirectory { line with envFile := given } =
      rootOf files.workingDirectory line := rfl
  simp only [runLine, sameRoot, configured, renamed, runConfig, loadEnvFile_unwanted unwanted,
    loadEnvFile_unwanted stillUnwanted, ofEnvFile_unwanted unwanted,
    ofEnvFile_unwanted stillUnwanted, sameCheck]

end Runs

/-- An environment file that the command line names is heeded, unless the settings file turns
loading off: the run stops there, or the check sees what the file assigns.  If the settings file
turns loading off, the check sees the environment as it is, whether there is such a file
or not, and the run is the same with another name and without one. -/
theorem named_envFile_heeded_or_disabled {arguments : List String} {line : CommandLine}
    {name : String} (accepted : CommandLine.parse arguments = .ok line)
    (naming : line.envFile = some name) {files : FileSystem} {environment : Environment}
    {config : Config}
    (configured : Config.load files (rootOf files.workingDirectory line) line.config environment
      line.overrides = .ok config) (durationMs : Nat) :
    config.env.file = some name ∧
    (∃ project, Config.ProjectGives files (rootOf files.workingDirectory line) line.config
        project ∧ config.env.load = project.env.load) ∧
    (config.env.load ≠ some false → Heeds files line environment config name durationMs
      (run files arguments environment durationMs)) ∧
    (config.env.load = some false →
      ShowsCheck files line config environment durationMs
        (run files arguments environment durationMs) ∧
      ∀ otherArguments given other,
        CommandLine.parse otherArguments = .ok { line with envFile := given } →
        Config.load files (rootOf files.workingDirectory line) line.config environment
          { line with envFile := given }.overrides = .ok other →
        run files otherArguments environment durationMs =
          run files arguments environment durationMs) := by
  have notRefused : line.noEnvFile = false := CommandLine.noEnvFile_of_envFile accepted naming
  have silent : line.overrides.loadEnvFile = none := by simp [CommandLine.overrides, notRefused]
  have isRun : run files arguments environment durationMs =
      runLine files line environment durationMs := by
    simp only [run, accepted]
  obtain ⟨isName, fromProject⟩ := Config.load_of_envFile configured naming silent
  rw [isRun]
  refine ⟨isName, fromProject, fun wanted => ?_, fun unwanted => ?_⟩
  · have effective : config.env.effectiveLoad = true := by
      cases known : config.env.load with
      | none => simp [EnvFileConfig.effectiveLoad, known]
      | some wants =>
          cases wants with
          | true => simp [EnvFileConfig.effectiveLoad, known]
          | false => exact absurd known wanted
    exact heeds_runLine configured isName effective durationMs
  · have effective : config.env.effectiveLoad = false := by
      simp [EnvFileConfig.effectiveLoad, unwanted]
    have prepared : Prepared files line environment config environment :=
      ⟨configured, loadEnvFile_unwanted effective⟩
    refine ⟨runLine_of_prepared prepared durationMs ⟨rfl, rfl, rfl⟩, ?_⟩
    intro otherArguments given other otherAccepted renamed
    simp only [run, otherAccepted]
    exact runLine_renaming configured effective renamed durationMs

theorem GapFile.configured_named : Config.load files
    (rootOf files.workingDirectory { envFile := some ".env" }) none environment
    (CommandLine.overrides { envFile := some ".env" }) =
      .ok { env := { file := some ".env" } } := by
  have root : rootOf files.workingDirectory { envFile := some ".env" } = "/" := by decide
  rw [root]
  exact bind_eq_ok_iff.mpr ⟨_, EnvFileOnly.project _, by decide⟩

namespace DisabledFile

def settings : String := "[env]\nload = false\n"

/-- A directory with the settings file only. -/
def files : FileSystem := Config.Awkward.files settings

def line : CommandLine := { envFile := some "none.env" }

def config : Config := { env := { file := some "none.env", load := some false } }

theorem accepted : CommandLine.parse ["--env-file", "none.env"] = .ok line := by
  rfl

theorem project : Config.ofProject files "/" none = .ok { env := { load := some false } } := by
  have written : settings = .ofList (Toml.writeTables (Config.envTable { load := some false }) []) := by
    decide
  have reads : Config.ofToml settings = .ok { env := { load := some false } } := by
    rw [written]
    exact mapError_eq_ok_iff.mpr (Config.readToml_writeTables_env _)
  exact Config.ofProject_eq_ok_iff.mpr
    (.usual (Config.fileGives_of_read (Config.Awkward.read_files settings) reads))

theorem configured : Config.load files (rootOf files.workingDirectory line) none .empty
    line.overrides = .ok config := by
  have root : rootOf files.workingDirectory line = "/" := by decide
  rw [root]
  exact bind_eq_ok_iff.mpr ⟨_, project, by decide⟩

theorem isFile_name : files.isFile "none.env" = false := by
  have inParts : files.locate "none.env" =
      files.follow FileSystem.linkLimit files.top ["", "none.env"] := by
    apply FileSystem.locate_of_parts <;> decide
  have unlisted : files.root.entries.lookup "none.env" = none := by rfl
  rw [FileSystem.isFile, inParts]
  simp [FileSystem.follow, FileSystem.top, Path.isIdle, unlisted]

theorem surveyed : Check.survey config files "/" = .ok {} := by
  have missing (name : String) (usual : name ∈ ScanConfig.usualIgnoreFiles) :
      files.isFile (Path.join "/" name) = false := by
    refine FileSystem.isFile_join_of_missing files.locate_top (ScanConfig.isName_of_usual usual) ?_
    simp only [ScanConfig.usualIgnoreFiles, List.mem_cons, List.not_mem_nil, or_false] at usual
    rcases usual with rfl | rfl <;> rfl
  have loaded : IgnoreRules.load files "/" config.scan.effectiveIgnoreFiles
      config.scan.extraIgnore = .ok ⟨"/", [], []⟩ := by
    have none : ScanConfig.usualIgnoreFiles.foldlM (IgnoreRules.addFile files) ⟨"/", [], []⟩ =
        .ok ⟨"/", [], []⟩ := IgnoreRules.foldlM_addFile_of_missing missing
    exact bind_eq_ok_iff.mpr ⟨_, none, rfl⟩
  have visited : (Collector.ofConfig config.scan).visit files ⟨"/", [], []⟩ 40 files.top "/" ""
      ("envcheck.toml", .file true settings.toUTF8) = .ok {} := by
    refine Collector.visit_eq_ok_iff.mpr ⟨by decide, _, _, rfl, ?_⟩
    have kept : IgnoreRules.isIgnored ⟨"/", [], []⟩ (Collector.relativePath "" "envcheck.toml")
        false = false := by
      decide
    have dialect : (Collector.ofConfig config.scan).dialectFor?
        (Path.join "/" "envcheck.toml") = none := by
      decide +kernel
    rw [Collector.enter, kept]
    simp only [Collector.collectFile, dialect]
    rfl
  have collected : (Collector.ofConfig config.scan).collect files "/" ⟨"/", [], []⟩ = .ok {} := by
    have readable : files.top.here.readable = true := rfl
    simp only [Collector.collect, files.locate_top, readable, if_true]
    rw [show files.top.here.entries = [("envcheck.toml", .file true settings.toUTF8)] from rfl,
      Collector.walkEntries_cons]
    exact bind_eq_ok_iff.mpr ⟨_, visited, bind_eq_ok_iff.mpr ⟨_, Collector.walkEntries_nil, rfl⟩⟩
  rw [Check.survey, loaded]
  exact collected

theorem succeeds : (Check.run config files "/" .empty 0).outcome =
    .ok (Check.verdict config files "/" .empty 0 {}) :=
  Check.outcome_eq_ok_iff.mpr ⟨_, surveyed, List.forall_mem_nil _, rfl⟩

end DisabledFile

theorem named_envFile_heeded_or_disabled_both :
    Heeds GapFile.files { envFile := some ".env" } GapFile.environment
        { env := { file := some ".env" } } ".env" 0
        (run GapFile.files ["--env-file", ".env"] GapFile.environment 0) ∧
      DisabledFile.config.env.load = some false ∧
      ∀ arguments other config, CommandLine.parse arguments =
          .ok { DisabledFile.line with envFile := some other } →
        Config.load DisabledFile.files
            (rootOf DisabledFile.files.workingDirectory DisabledFile.line) none .empty
            { DisabledFile.line with envFile := some other }.overrides = .ok config →
        run DisabledFile.files arguments .empty 0 =
          run DisabledFile.files ["--env-file", "none.env"] .empty 0 := by
  have accepted : CommandLine.parse ["--env-file", ".env"] =
      .ok { envFile := some ".env" } := by rfl
  obtain ⟨_, _, heeded, _⟩ :=
    named_envFile_heeded_or_disabled accepted rfl GapFile.configured_named 0
  obtain ⟨_, _, _, disabled⟩ := named_envFile_heeded_or_disabled DisabledFile.accepted rfl
    DisabledFile.configured 0
  obtain ⟨_, same⟩ := disabled rfl
  exact ⟨heeded (by decide), rfl, fun arguments other config => same arguments (some other) config⟩

/-- The file that the command line names is not there, but the settings file turns loading off,
and the run finds nothing wrong. -/
theorem named_envFile_passed_over :
    CommandLine.parse ["--env-file", "none.env"] = .ok DisabledFile.line ∧
      Config.load DisabledFile.files (rootOf DisabledFile.files.workingDirectory DisabledFile.line)
        none .empty DisabledFile.line.overrides = .ok DisabledFile.config ∧
      DisabledFile.files.isFile "none.env" = false ∧
      (run DisabledFile.files ["--env-file", "none.env"] .empty 0).exitCode = 0 := by
  have prepared : Prepared DisabledFile.files DisabledFile.line .empty DisabledFile.config .empty :=
    ⟨DisabledFile.configured, loadEnvFile_unwanted rfl⟩
  have root : rootOf DisabledFile.files.workingDirectory DisabledFile.line = "/" := by decide
  have shows := runLine_of_prepared prepared 0
    (present_human_of_complete _ _ (by rw [root]; exact DisabledFile.succeeds) rfl)
  refine ⟨DisabledFile.accepted, DisabledFile.configured, DisabledFile.isFile_name, ?_⟩
  simp only [run, DisabledFile.accepted]
  exact shows.exitCode

end Program

end EnvAudit
