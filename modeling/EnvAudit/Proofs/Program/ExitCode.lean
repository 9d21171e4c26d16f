import EnvAudit.Program
import EnvAudit.Proofs.Check.Meaning
import EnvAudit.Proofs.EnvFile.Filling
import EnvAudit.Proofs.Report.Begun

/-!
# Exit codes

A run of the program ends with zero just if every step succeeds and every name that
the source files refer to is set.  It ends with one if the steps succeed and a name is
not set, and with two if a step fails.  The report is a step too: one for programs fails if it
tells of a path that is no text.

A run whose environment file has a value that cannot be set breaks off, and ends with none of
these codes.
-/

namespace EnvAudit

namespace Program

/-- The settings load, the environment file can be loaded, the check of the tree succeeds, and
the report can be written. -/
structure Succeeds (files : FileSystem) (line : CommandLine) (environment : Environment)
    (durationMs : Nat) (config : Config) (filled : Environment) (collection : Collection) :
    Prop where
  configured : Config.load files (rootOf files.workingDirectory line) line.config environment
    line.overrides = .ok config
  loaded : loadEnvFile files config.env environment = .ok filled
  surveyed : Check.survey config files (rootOf files.workingDirectory line) = .ok collection
  reported : ∃ result, (Check.run config files (rootOf files.workingDirectory line) filled
    durationMs).outcome = .ok result ∧ Report.Writable files.isText line.format result

/-- The environment file that is to be loaded gives a variable a value that it cannot have. -/
structure Crashes (files : FileSystem) (line : CommandLine) (environment : Environment)
    (config : Config) (name value : String) : Prop where
  configured : Config.load files (rootOf files.workingDirectory line) line.config environment
    line.overrides = .ok config
  wanted : config.env.effectiveLoad = true
  isFile : files.isFile config.env.effectiveFile = true
  obstructed : EnvFile.load files config.env.effectiveFile environment =
    .error (.unsettable name value)

variable {files : FileSystem} {line : CommandLine} {environment filled : Environment}
variable {durationMs : Nat} {config : Config} {collection : Collection}

/-- There is one way in which the steps succeed. -/
theorem Succeeds.unique {otherConfig : Config} {otherFilled : Environment}
    {otherCollection : Collection}
    (succeeds : Succeeds files line environment durationMs config filled collection)
    (again : Succeeds files line environment durationMs otherConfig otherFilled
      otherCollection) :
    config = otherConfig ∧ filled = otherFilled ∧ collection = otherCollection := by
  cases succeeds.configured.symm.trans again.configured
  cases succeeds.loaded.symm.trans again.loaded
  cases succeeds.surveyed.symm.trans again.surveyed
  exact ⟨rfl, rfl, rfl⟩

/-- The loading of an environment file crashes only if it gives a value that cannot be set. -/
theorem loadEnvFile_eq_crash {settings : EnvFileConfig} {message : String}
    (crashes : loadEnvFile files settings environment = .error (.crash message)) :
    settings.effectiveLoad = true ∧ files.isFile settings.effectiveFile = true ∧
      ∃ name value, EnvFile.load files settings.effectiveFile environment =
        .error (.unsettable name value) := by
  simp only [loadEnvFile] at crashes
  split at crashes
  · cases crashes
  rename_i wanted
  split at crashes
  · rename_i isFile
    refine ⟨by simpa using wanted, isFile, ?_⟩
    cases loaded : EnvFile.load files settings.effectiveFile environment with
    | ok filled =>
        rw [loaded] at crashes
        cases crashes
    | error fault =>
        rw [loaded] at crashes
        cases fault with
        | unsettable name value => exact ⟨name, value, rfl⟩
        | unreadable failure => cases crashes
        | malformed text index => cases crashes
  · split at crashes <;> cases crashes

theorem Crashes.stops {name value : String}
    (crashes : Crashes files line environment config name value) :
    loadEnvFile files config.env environment =
      .error (.crash (EnvFile.Fault.unsettable name value).message) := by
  simp only [loadEnvFile, crashes.wanted, crashes.isFile, crashes.obstructed]
  rfl

/-- A run with such a value breaks off. -/
theorem exitCode_of_crashes {name value : String}
    (crashes : Crashes files line environment config name value) (durationMs : Nat) :
    (runLine files line environment durationMs).exitCode = exitCrash := by
  simp only [runLine, crashes.configured, runConfig, crashes.stops]
  rfl

section Present

variable {root : String} {run : CheckRun} {result : CheckResult}

theorem exitCode_present_error {format : ReportFormat} {error : CheckError}
    (fails : run.outcome = .error error) :
    (present files format root run).exitCode = exitFailure := by
  simp only [present, fails]

theorem exitCode_present_ok {format : ReportFormat} (succeeds : run.outcome = .ok result)
    (writable : Report.Writable files.isText format result) :
    (present files format root run).exitCode =
      if result.isComplete then exitComplete else exitMissing := by
  simp only [present, succeeds]
  cases format with
  | human =>
      simp only
      split <;> rfl
  | json => simp only [Report.begunJson?_of_writable writable]

theorem exitCode_present_begun {format : ReportFormat} (succeeds : run.outcome = .ok result)
    (unwritable : ¬ Report.Writable files.isText format result) :
    (present files format root run).exitCode = exitFailure := by
  cases format with
  | human => exact absurd nofun unwritable
  | json =>
      obtain ⟨begun, known⟩ := Report.begunJson?_of_not_writable unwritable
      simp only [present, succeeds, known]

end Present

/-- A run whose report cannot be written fails. -/
theorem exitCode_of_not_writable {result : CheckResult}
    (configured : Config.load files (rootOf files.workingDirectory line) line.config environment
      line.overrides = .ok config)
    (loaded : loadEnvFile files config.env environment = .ok filled)
    (succeeds : (Check.run config files (rootOf files.workingDirectory line) filled
      durationMs).outcome = .ok result)
    (unwritable : ¬ Report.Writable files.isText line.format result) :
    (runLine files line environment durationMs).exitCode = exitFailure := by
  simp only [runLine, configured, runConfig, loaded]
  exact exitCode_present_begun succeeds unwritable

/-- A run whose steps succeed ends as the verdict says.  Otherwise it fails, unless it breaks
off. -/
theorem exitCode_runLine (files : FileSystem) (line : CommandLine) (environment : Environment)
    (durationMs : Nat) :
    (∃ config filled collection,
      Succeeds files line environment durationMs config filled collection ∧
        (runLine files line environment durationMs).exitCode =
          if (Check.verdict config files (rootOf files.workingDirectory line) filled durationMs
            collection).isComplete then exitComplete else exitMissing) ∨
      (¬ ∃ config filled collection,
        Succeeds files line environment durationMs config filled collection) ∧
        ((runLine files line environment durationMs).exitCode = exitFailure ∨
          (∃ config name value, Crashes files line environment config name value) ∧
            (runLine files line environment durationMs).exitCode = exitCrash) := by
  rw [runLine]
  cases configured : Config.load files (rootOf files.workingDirectory line) line.config
      environment line.overrides with
  | error error =>
      refine .inr ⟨?_, .inl rfl⟩
      rintro ⟨config, filled, collection, succeeds⟩
      cases configured.symm.trans succeeds.configured
  | ok config =>
      simp only [runConfig]
      cases loaded : loadEnvFile files config.env environment with
      | error stop =>
          have never : ¬ ∃ config filled collection,
              Succeeds files line environment durationMs config filled collection := by
            rintro ⟨other, filled, collection, succeeds⟩
            cases configured.symm.trans succeeds.configured
            cases loaded.symm.trans succeeds.loaded
          cases stop with
          | failure message => exact .inr ⟨never, .inl rfl⟩
          | crash message =>
              obtain ⟨wanted, isFile, name, value, obstructed⟩ := loadEnvFile_eq_crash loaded
              exact .inr ⟨never, .inr ⟨⟨config, name, value, configured, wanted, isFile,
                obstructed⟩, rfl⟩⟩
      | ok filled =>
          cases checked : (Check.run config files (rootOf files.workingDirectory line) filled
              durationMs).outcome with
          | error error =>
              refine .inr ⟨?_, .inl (exitCode_present_error checked)⟩
              rintro ⟨other, otherFilled, collection, succeeds⟩
              cases configured.symm.trans succeeds.configured
              cases loaded.symm.trans succeeds.loaded
              obtain ⟨result, succeeded, _⟩ := succeeds.reported
              cases checked.symm.trans succeeded
          | ok result =>
              by_cases writable : Report.Writable files.isText line.format result
              · obtain ⟨collection, surveyed, pass, rfl⟩ := Check.outcome_eq_ok_iff.mp checked
                exact .inl ⟨config, filled, collection,
                  ⟨configured, loaded, surveyed, _, checked, writable⟩,
                  exitCode_present_ok checked writable⟩
              · refine .inr ⟨?_, .inl (exitCode_present_begun checked writable)⟩
                rintro ⟨other, otherFilled, collection, succeeds⟩
                cases configured.symm.trans succeeds.configured
                cases loaded.symm.trans succeeds.loaded
                obtain ⟨again, succeeded, isWritable⟩ := succeeds.reported
                cases checked.symm.trans succeeded
                exact writable isWritable

/-- A verdict is complete if every name that the source files refer to is set. -/
theorem isComplete_verdict_iff {root : String} :
    (Check.verdict config files root filled durationMs collection).isComplete ↔
      ∀ file ∈ collection.files, ∀ name, Check.RefersTo files file name →
        filled.isSet name config.check.effectiveEmptyPolicy = true := by
  rw [CheckResult.isComplete, List.isEmpty_iff, Check.missing_verdict, Check.found_verdict,
    List.filter_eq_nil_iff]
  simp only [List.mem_eraseDups, Check.mem_names_mentions_iff, Bool.not_eq_true',
    Bool.not_eq_false]
  constructor
  · intro allSet file member name refers
    exact allSet name ⟨file, member, refers⟩
  · rintro allSet name ⟨file, member, refers⟩
    exact allSet file member name refers

/-- A run that the command line asks for ends with zero if every step succeeds and every
name that a source file refers to is set, with one if the steps succeed and a name is
not, and, unless it breaks off, with two otherwise. -/
theorem exitCode_meaning {arguments : List String} {line : CommandLine}
    (accepted : CommandLine.parse arguments = .ok line) (files : FileSystem)
    (environment : Environment) (durationMs : Nat) :
    ((run files arguments environment durationMs).exitCode = 0 ↔
      ∃ config filled collection,
        Succeeds files line environment durationMs config filled collection ∧
          ∀ file ∈ collection.files, ∀ name, Check.RefersTo files file name →
            filled.isSet name config.check.effectiveEmptyPolicy = true) ∧
    ((run files arguments environment durationMs).exitCode = 1 ↔
      ∃ config filled collection,
        Succeeds files line environment durationMs config filled collection ∧
          ∃ file ∈ collection.files, ∃ name, Check.RefersTo files file name ∧
            filled.isSet name config.check.effectiveEmptyPolicy = false) ∧
    ((¬ ∃ config name value, Crashes files line environment config name value) →
      ((run files arguments environment durationMs).exitCode = 2 ↔
        ¬ ∃ config filled collection,
          Succeeds files line environment durationMs config filled collection)) := by
  rw [run, accepted]
  simp only
  rcases exitCode_runLine files line environment durationMs with
    ⟨config, filled, collection, succeeds, exitCode⟩ | ⟨fails, ends⟩
  · rw [exitCode]
    split
    · rename_i complete
      have allSet := isComplete_verdict_iff.mp complete
      refine ⟨⟨fun _ => ⟨_, _, _, succeeds, allSet⟩, fun _ => rfl⟩, ⟨nofun, ?_⟩,
        fun _ => ⟨nofun, ?_⟩⟩
      · rintro ⟨otherConfig, otherFilled, otherCollection, again, file, member, name, refers, unset⟩
        obtain ⟨rfl, rfl, rfl⟩ := succeeds.unique again
        exact absurd ((allSet file member name refers).symm.trans unset) (by simp)
      · exact fun fails => absurd ⟨_, _, _, succeeds⟩ fails
    · rename_i incomplete
      have someUnset : ∃ file ∈ collection.files, ∃ name, Check.RefersTo files file name ∧
          filled.isSet name config.check.effectiveEmptyPolicy = false := by
        by_contra noneUnset
        push Not at noneUnset
        refine incomplete (isComplete_verdict_iff.mpr fun file member name refers => ?_)
        exact Bool.not_eq_false _ |>.mp (noneUnset file member name refers)
      refine ⟨⟨nofun, ?_⟩, ⟨fun _ => ⟨_, _, _, succeeds, someUnset⟩, fun _ => rfl⟩,
        fun _ => ⟨nofun, ?_⟩⟩
      · rintro ⟨otherConfig, otherFilled, otherCollection, again, allSet⟩
        obtain ⟨rfl, rfl, rfl⟩ := succeeds.unique again
        exact absurd (isComplete_verdict_iff.mpr allSet) incomplete
      · exact fun fails => absurd ⟨_, _, _, succeeds⟩ fails
  · have notSmall : (runLine files line environment durationMs).exitCode ≠ 0 ∧
        (runLine files line environment durationMs).exitCode ≠ 1 := by
      rcases ends with exitCode | ⟨_, exitCode⟩ <;> rw [exitCode] <;> decide
    refine ⟨⟨fun ends => absurd ends notSmall.1, ?_⟩, ⟨fun ends => absurd ends notSmall.2, ?_⟩,
      fun steady => ⟨fun _ => fails, fun _ => ?_⟩⟩
    · rintro ⟨config, filled, collection, succeeds, _⟩
      exact absurd ⟨config, filled, collection, succeeds⟩ fails
    · rintro ⟨config, filled, collection, succeeds, _⟩
      exact absurd ⟨config, filled, collection, succeeds⟩ fails
    · rcases ends with exitCode | ⟨crashes, _⟩
      · exact exitCode
      · exact absurd crashes steady

end Program

namespace ScriptTree

/-- A run that checks a directory, leaves out what does not parse and loads no environment file. -/
def line (tree : ScriptTree) (format : ReportFormat) : CommandLine where
  path := some tree.path
  skipUnparsable := true
  noEnvFile := true
  format := format

/-- The settings of such a run. -/
def settings : Config := { lenient with env := { load := some false } }

variable {tree : ScriptTree} {format : ReportFormat}

theorem overrides_line :
    (tree.line format).overrides = { onParseError := some .skip, loadEnvFile := some false } :=
  rfl

theorem Plain.rootOf_line (plain : tree.Plain) (format : ReportFormat) :
    Program.rootOf tree.files.workingDirectory (tree.line format) = tree.path :=
  plain.absolute

theorem Plain.configured (plain : tree.Plain) :
    Config.load tree.files (Program.rootOf tree.files.workingDirectory (tree.line format))
      (tree.line format).config .empty (tree.line format).overrides = .ok settings := by
  rw [plain.rootOf_line, overrides_line]
  exact bind_eq_ok_iff.mpr ⟨_, plain.ofProject_eq, by decide⟩

/-- The result of such a run. -/
def result (tree : ScriptTree) (durationMs : Nat) : CheckResult :=
  Check.verdict settings tree.files tree.path .empty durationMs { files := tree.sources }

theorem Plain.outcome_run (plain : tree.Plain) (durationMs : Nat) :
    (Check.run settings tree.files tree.path .empty durationMs).outcome =
      .ok (tree.result durationMs) :=
  plain.succeeds rfl rfl .empty durationMs

theorem Plain.succeeds_run (plain : tree.Plain) (durationMs : Nat)
    (writable : Report.Writable tree.files.isText format (tree.result durationMs)) :
    Program.Succeeds tree.files (tree.line format) .empty durationMs settings .empty
      { files := tree.sources } := by
  refine ⟨plain.configured, rfl, ?_, tree.result durationMs, ?_, writable⟩
  · rw [plain.rootOf_line]
    exact plain.surveyed rfl
  · rw [plain.rootOf_line]
    exact plain.outcome_run durationMs

/-- A directory without scripts. -/
def bare : ScriptTree where
  name := "app"
  scripts := []

theorem bare_plain : bare.Plain := by
  decide +kernel

theorem isFile_none : bare.files.isFile "/app/none.toml" = false := by
  have path : Path.join bare.path "none.toml" = "/app/none.toml" := by decide
  rw [← path]
  exact FileSystem.isFile_join_of_missing bare_plain.located (by decide) rfl

end ScriptTree

namespace Program

open ScriptTree (bare pair settings)

theorem exitCode_meaning_scripts :
    (run bare.files ["/app", "--skip-unparsable", "--no-env-file"] .empty 0).exitCode = 0 ∧
      ((run pair.files ["/app", "--skip-unparsable", "--no-env-file"] .empty 0).exitCode = 0 ↔
        ∀ file ∈ pair.sources, ∀ name, ¬ Check.RefersTo pair.files file name) ∧
      ((run pair.files ["/app", "--skip-unparsable", "--no-env-file"] .empty 0).exitCode = 1 ↔
        ∃ file ∈ pair.sources, ∃ name, Check.RefersTo pair.files file name) ∧
      (run bare.files ["/app", "--config", "/app/none.toml"] .empty 0).exitCode = 2 := by
  have accepted : CommandLine.parse ["/app", "--skip-unparsable", "--no-env-file"] =
      .ok (pair.line .human) := by rfl
  have named : CommandLine.parse ["/app", "--config", "/app/none.toml"] =
      .ok { path := some "/app", config := some "/app/none.toml" } := by rfl
  have bareSucceeds : Succeeds bare.files (bare.line .human) .empty 0 settings .empty
      { files := [] } := ScriptTree.bare_plain.succeeds_run 0 nofun
  have succeeds : Succeeds pair.files (pair.line .human) .empty 0 settings .empty
      { files := pair.sources } := ScriptTree.pair_plain.succeeds_run 0 nofun
  have unset (name : String) :
      Environment.empty.isSet name settings.check.effectiveEmptyPolicy = false := rfl
  obtain ⟨zero, one, _⟩ := exitCode_meaning accepted pair.files .empty 0
  obtain ⟨_, _, two⟩ := exitCode_meaning named bare.files .empty 0
  refine ⟨(exitCode_meaning accepted bare.files .empty 0).1.mpr ⟨_, _, _, bareSucceeds, nofun⟩,
    zero.trans ⟨?_, ?_⟩, one.trans ⟨?_, ?_⟩, (two ?_).mpr ?_⟩
  · rintro ⟨config, filled, collection, again, allSet⟩ file member name refers
    obtain ⟨rfl, rfl, rfl⟩ := succeeds.unique again
    exact absurd (allSet file member name refers) (by simp [unset])
  · exact fun none => ⟨_, _, _, succeeds, fun file member name refers =>
      absurd refers (none file member name)⟩
  · rintro ⟨config, filled, collection, again, file, member, name, refers, _⟩
    obtain ⟨rfl, rfl, rfl⟩ := succeeds.unique again
    exact ⟨file, member, name, refers⟩
  · rintro ⟨file, member, name, refers⟩
    exact ⟨_, _, _, succeeds, file, member, name, refers, unset name⟩
  -- The settings file that is named does not exist.
  · rintro ⟨config, name, value, crashes⟩
    obtain ⟨project, read, _⟩ := bind_eq_ok_iff.mp crashes.configured
    simp [Config.ofProject, Config.file?, ScriptTree.isFile_none] at read
  · rintro ⟨config, filled, collection, again⟩
    obtain ⟨project, read, _⟩ := bind_eq_ok_iff.mp again.configured
    simp [Config.ofProject, Config.file?, ScriptTree.isFile_none] at read

end Program

namespace ScriptTree

/-- A directory whose name is no text, without scripts. -/
def nameless : ScriptTree where
  name := "\uFFFD"
  scripts := []
  garbled := ["\uFFFD"]

theorem nameless_plain : nameless.Plain := by
  decide +kernel

/-- The report tells of the directory, so it cannot be written for programs. -/
theorem not_writable_nameless (durationMs : Nat) :
    ¬ Report.Writable nameless.files.isText .json (nameless.result durationMs) := by
  intro writable
  have shown : nameless.path ∈ Report.paths (nameless.result durationMs) :=
    List.mem_append_left _ (List.mem_append_left _ List.mem_cons_self)
  exact absurd (writable rfl _ shown) (by decide)

end ScriptTree

namespace EnvFileOnly

/-- A directory with an environment file only. -/
def files (content : ByteArray) : FileSystem where
  root := ⟨true, [(".env", .file true content)]⟩
  workingDirectory := "/"

variable (content : ByteArray)

theorem located : (files content).locate (EnvFileConfig.effectiveFile {}) =
    .ok (.file true content, 40) := by
  have inParts : (files content).locate (EnvFileConfig.effectiveFile {}) =
      (files content).follow FileSystem.linkLimit (files content).top ["", ".env"] := by
    have parts : Path.parts (Path.join "/" ".env") = ["", ".env"] := by decide
    exact FileSystem.locate_of_parts (by decide) (by decide) (by decide) parts
  rw [inParts]
  simp [FileSystem.follow, files, FileSystem.top, Path.isIdle, FileSystem.linkLimit]

theorem isFile : (files content).isFile (EnvFileConfig.effectiveFile {}) = true := by
  rw [FileSystem.isFile, located]

theorem read : (files content).read (EnvFileConfig.effectiveFile {}) = .ok content := by
  rw [FileSystem.read, located]
  rfl

/-- There is no settings file. -/
theorem project : Config.ofProject (files content) "/" none = .ok {} := by
  have missing : (files content).isFile (Path.join "/" Config.projectFile) = false :=
    FileSystem.isFile_join_of_missing (files content).locate_top (by decide) rfl
  rw [Config.ofProject, Config.file?, missing]
  rfl

end EnvFileOnly

namespace UnsettableFile

/-- An environment file with a value that no variable can have. -/
def files : FileSystem := EnvFileOnly.files ⟨#[65, 61, 0]⟩

theorem crashes : Program.Crashes files {} .empty {} "A" "\x00" where
  configured := by
    have root : Program.rootOf files.workingDirectory {} = "/" := by decide
    rw [root]
    exact bind_eq_ok_iff.mpr ⟨_, EnvFileOnly.project _, by decide⟩
  wanted := rfl
  isFile := EnvFileOnly.isFile _
  obstructed := by
    rw [EnvFile.load, files, EnvFileOnly.read]
    cbv

end UnsettableFile

namespace Program

open ScriptTree (nameless settings)

/-- A run for programs fails though its steps before the report succeed and nothing is referred to,
since the report cannot be written.  And a run does not fail but break off where its environment
file has a value that no variable can have. -/
theorem exitCode_apart_from_verdict :
    CommandLine.parse
        ["/\uFFFD", "--skip-unparsable", "--no-env-file", "--format", "json"] =
        .ok (nameless.line .json) ∧
      Config.load nameless.files (rootOf nameless.files.workingDirectory (nameless.line .json))
        none .empty (nameless.line .json).overrides = .ok settings ∧
      loadEnvFile nameless.files settings.env .empty = .ok .empty ∧
      Check.survey settings nameless.files
        (rootOf nameless.files.workingDirectory (nameless.line .json)) = .ok {} ∧
      (Check.run settings nameless.files
        (rootOf nameless.files.workingDirectory (nameless.line .json)) .empty 0).outcome =
          .ok (nameless.result 0) ∧
      (run nameless.files
        ["/\uFFFD", "--skip-unparsable", "--no-env-file", "--format", "json"] .empty 0).exitCode =
          2 ∧
      (run UnsettableFile.files [] .empty 0).exitCode = 101 := by
  have accepted : CommandLine.parse
      ["/\uFFFD", "--skip-unparsable", "--no-env-file", "--format", "json"] =
      .ok (nameless.line .json) := by rfl
  have plain := ScriptTree.nameless_plain
  have root := plain.rootOf_line .json
  have succeeds := plain.outcome_run 0
  rw [← root] at succeeds
  refine ⟨accepted, plain.configured, rfl, ?_, succeeds, ?_, ?_⟩
  · rw [root]
    exact plain.surveyed rfl
  · rw [run, accepted]
    exact exitCode_of_not_writable plain.configured rfl succeeds
      (ScriptTree.not_writable_nameless 0)
  · have none : CommandLine.parse [] = .ok {} := by rfl
    rw [run, none]
    exact exitCode_of_crashes UnsettableFile.crashes 0

end Program

end EnvAudit
