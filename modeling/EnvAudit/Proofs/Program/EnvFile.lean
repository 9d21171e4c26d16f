import EnvAudit.Proofs.Check.Classification
import EnvAudit.Proofs.Check.Overlooked
import EnvAudit.Proofs.Config.Layers
import EnvAudit.Proofs.EnvFile.Filling
import EnvAudit.Proofs.Program.Formats

/-!
# What the environment file adds

The assignments of the environment file fill gaps of the environment: they never replace a
value, not even an empty one, and they come too late for the settings.  So they can only make
fewer names missing.
-/

namespace EnvAudit

namespace CommandLine

/-- The command line that asks for no environment file and otherwise says the same. -/
def withoutEnvFile (line : CommandLine) : CommandLine :=
  { line with envFile := none, noEnvFile := true }

end CommandLine

namespace Config

variable {files others : FileSystem} {root : String} {named : Option String}
variable {environment : Environment} {line : CommandLine} {config bare : Config}

/-- The command line comes over the same settings of the other layers, whatever it says. -/
theorem load_over {overrides others : Overrides} {other : Config}
    (loaded : load files root named environment overrides = .ok config)
    (again : load files root named environment others = .ok other) :
    ∃ base, config = withOverrides overrides base ∧ other = withOverrides others base := by
  obtain ⟨project, projectRead, loaded⟩ := bind_eq_ok_iff.mp loaded
  obtain ⟨base, variablesRead, loaded⟩ := bind_eq_ok_iff.mp loaded
  obtain ⟨_, _, ⟨⟩⟩ := bind_eq_ok_iff.mp loaded
  obtain ⟨_, projectAgain, again⟩ := bind_eq_ok_iff.mp again
  cases projectRead.symm.trans projectAgain
  obtain ⟨_, variablesAgain, again⟩ := bind_eq_ok_iff.mp again
  cases variablesRead.symm.trans variablesAgain
  obtain ⟨_, _, ⟨⟩⟩ := bind_eq_ok_iff.mp again
  exact ⟨base, rfl, rfl⟩

/-- Without the environment file, nothing but the settings about it is different. -/
theorem load_withoutEnvFile
    (loaded : load files root named environment line.overrides = .ok config)
    (bareLoaded : load files root named environment line.withoutEnvFile.overrides = .ok bare) :
    bare.scan = config.scan ∧ bare.check = config.check ∧ bare.env.effectiveLoad = false := by
  obtain ⟨base, rfl, rfl⟩ := load_over loaded bareLoaded
  exact ⟨rfl, rfl, rfl⟩

/-- The settings depend on nothing in the tree but the settings file. -/
theorem load_of_agreeAt
    (agree : files.AgreeAt others (named.getD (Path.join root projectFile)))
    (environment : Environment) (overrides : Overrides) :
    load others root named environment overrides =
      load files root named environment overrides := by
  obtain ⟨isFile, read⟩ := agree
  have sameText (there : files.isFile (named.getD (Path.join root projectFile)) = true) :
      ofFile others (named.getD (Path.join root projectFile)) =
        ofFile files (named.getD (Path.join root projectFile)) := by
    rw [ofFile, ofFile, FileSystem.readText, FileSystem.readText, read there]
  have sameProject : ofProject others root named = ofProject files root named := by
    cases named with
    | some path =>
        simp only [ofProject, file?, Option.getD_some] at isFile sameText ⊢
        cases there : files.isFile path with
        | false => simp [← isFile, there]
        | true => simp [← isFile, there, sameText there]
    | none =>
        simp only [ofProject, file?, Option.getD_none] at isFile sameText ⊢
        cases there : files.isFile (Path.join root projectFile) with
        | false => simp [← isFile, there]
        | true => simp [← isFile, there, sameText there]
  rw [load, load, sameProject]

end Config

namespace Program

section Runs

variable {files : FileSystem} {line : CommandLine} {environment filled bareFilled : Environment}
variable {config bare : Config} {settings : EnvFileConfig}

/-- The environment file that is to be loaded is there and makes sense. -/
structure Assigns (files : FileSystem) (settings : EnvFileConfig) (environment : Environment)
    (bindings : List (String × String)) : Prop where
  wanted : settings.effectiveLoad = true
  isFile : files.isFile settings.effectiveFile = true
  reads : ∃ content, files.read settings.effectiveFile = .ok content ∧
    EnvFile.bindings environment content = .ok bindings

theorem loadEnvFile_unwanted (unwanted : settings.effectiveLoad = false) :
    loadEnvFile files settings environment = .ok environment := by
  simp [loadEnvFile, unwanted]

/-- An environment file that makes sense is loaded, unless it has a value for a gap that no
variable can have. -/
theorem load_of_assigns {bindings : List (String × String)}
    (assigns : Assigns files settings environment bindings) :
    ((∀ name value, ¬ EnvFile.Obstructed environment bindings name value) ∧
      loadEnvFile files settings environment = .ok (environment.fill bindings)) ∨
    ∃ name value, EnvFile.Obstructed environment bindings name value ∧
      EnvFile.load files settings.effectiveFile environment = .error (.unsettable name value) := by
  obtain ⟨content, read, known⟩ := assigns.reads
  rcases EnvFile.load_of_bindings read known with ⟨free, loaded⟩ | obstructed
  · refine .inl ⟨free, ?_⟩
    rw [loadEnvFile, assigns.wanted, assigns.isFile, loaded]
    rfl
  · exact .inr obstructed

/-- Whatever the environment file holds, it fills gaps. -/
theorem filledBy_of_loadEnvFile (loaded : loadEnvFile files settings environment = .ok filled) :
    ∃ bindings, environment.FilledBy bindings filled := by
  have untouched : environment.FilledBy [] environment := environment.filledBy_fill []
  rw [loadEnvFile] at loaded
  split at loaded
  · cases loaded
    exact ⟨[], untouched⟩
  · split at loaded
    · obtain ⟨_, bindings, _, _, rfl⟩ := EnvFile.load_eq_ok (mapError_eq_ok_iff.mp loaded)
      exact ⟨bindings, environment.filledBy_fill bindings⟩
    · split at loaded
      · cases loaded
      · cases loaded
        exact ⟨[], untouched⟩

/-- What is missing depends on the environment that the check sees. -/
theorem missing_of_checked {durationMs : Nat} {result : CheckResult}
    (succeeds : checked files line config filled durationMs = .ok result) :
    result.missing = result.found.filter
      fun name => !filled.isSet name config.check.effectiveEmptyPolicy := by
  obtain ⟨_, _, _, rfl⟩ := Check.outcome_eq_ok_iff.mp succeeds
  exact Check.missing_verdict

/-- Without the environment file, a check sees the environment as it is. -/
theorem Prepared.withoutEnvFile
    (prepared : Prepared files line environment config filled)
    (barePrepared : Prepared files line.withoutEnvFile environment bare bareFilled) :
    bareFilled = environment ∧ bare.scan = config.scan ∧ bare.check = config.check := by
  obtain ⟨scan, check, unwanted⟩ :=
    Config.load_withoutEnvFile prepared.configured barePrepared.configured
  refine ⟨?_, scan, check⟩
  have loaded := barePrepared.loaded
  rw [loadEnvFile_unwanted unwanted] at loaded
  cases loaded
  rfl

/-- The settings about the environment file have no part in the check. -/
theorem checked_of_same (scan : bare.scan = config.scan) (check : bare.check = config.check)
    (line : CommandLine) (durationMs : Nat) :
    checked files line.withoutEnvFile bare filled durationMs =
      checked files line config filled durationMs := by
  obtain ⟨bareScan, bareCheck, bareEnv⟩ := bare
  cases scan
  cases check
  rfl

/-- The environment file changes nothing about a check but that less is missing. -/
theorem checked_filled {bindings : List (String × String)} {durationMs bareMs : Nat}
    {result bareResult : CheckResult} (isFilled : environment.FilledBy bindings filled)
    (succeeds : checked files line config filled durationMs = .ok result)
    (bareSucceeds : checked files line config environment bareMs = .ok bareResult) :
    result.missing.Sublist bareResult.missing ∧ result.found = bareResult.found ∧
      result.firstSeen = bareResult.firstSeen := by
  have classifies := (Check.judgedLast_run config files
    (rootOf files.workingDirectory line)).environmentClassifies
  have effective := Check.run_counting_effective config files (rootOf files.workingDirectory line)
  rw [checked, ← effective] at succeeds bareSucceeds
  have fewer := classifies.monotone _ _ _ _ _ _ _ _ (fun name => isFilled.isSet) bareSucceeds
    succeeds
  obtain ⟨missing, alike⟩ := classifies.succeeds_alike _ _ _ filled
    config.check.effectiveEmptyPolicy durationMs _ bareSucceeds
  cases succeeds.symm.trans alike
  exact ⟨fewer.1, rfl, rfl⟩

end Runs

/-- The environment file only fills gaps.  The check sees the environment, and for any name that
has no value in it the first that the file gives.  Only where that is a value that no variable can
have, the run breaks off before it checks anything.  So next to the same run without an
environment file, the same is found at the same places, no more is missing, and a name with an
empty value is still missing where these count as missing.  The settings come from the
settings file and the environment as it was before, whatever the rest of the tree holds. -/
theorem envFile_fills_gaps (files : FileSystem) (line : CommandLine)
    (environment : Environment) :
    (∀ config bindings,
      Config.load files (rootOf files.workingDirectory line) line.config environment
        line.overrides = .ok config →
      Assigns files config.env environment bindings →
      ((¬ ∃ name value, EnvFile.Obstructed environment bindings name value) →
        ∃ filled, Prepared files line environment config filled ∧
          (∀ name, filled.get? name = (environment.get? name <|> bindings.lookup name)) ∧
          ∀ arguments durationMs, CommandLine.parse arguments = .ok line →
            let shown := present files line.format (rootOf files.workingDirectory line)
              (Check.run config files (rootOf files.workingDirectory line) filled durationMs)
            (run files arguments environment durationMs).Shows shown.exitCode shown.stdout
              shown.stderr) ∧
      ((∃ name value, EnvFile.Obstructed environment bindings name value) →
        (¬ ∃ filled, Prepared files line environment config filled) ∧
          ∀ arguments durationMs, CommandLine.parse arguments = .ok line →
            ∃ message, (run files arguments environment durationMs).Shows exitCrash "" message)) ∧
    (∀ config filled durationMs result bare bareFilled bareMs bareResult,
      Prepared files line environment config filled →
      checked files line config filled durationMs = .ok result →
      Prepared files line.withoutEnvFile environment bare bareFilled →
      checked files line.withoutEnvFile bare bareFilled bareMs = .ok bareResult →
      result.missing.Sublist bareResult.missing ∧ result.found = bareResult.found ∧
        result.firstSeen = bareResult.firstSeen ∧
        (config.check.effectiveEmptyPolicy = .missing → ∀ name ∈ result.found,
          environment.get? name = some "" → name ∈ result.missing)) ∧
    ∀ others : FileSystem, others.workingDirectory = files.workingDirectory →
      files.AgreeAt others (line.config.getD
        (Path.join (rootOf files.workingDirectory line) Config.projectFile)) →
      Config.load others (rootOf others.workingDirectory line) line.config environment
          line.overrides =
        Config.load files (rootOf files.workingDirectory line) line.config environment
          line.overrides := by
  refine ⟨?_, ?_, ?_⟩
  · intro config bindings configured assigns
    rcases load_of_assigns assigns with ⟨free, loaded⟩ | ⟨name, value, obstructed, stops⟩
    · have prepared : Prepared files line environment config (environment.fill bindings) :=
        ⟨configured, loaded⟩
      refine ⟨fun _ => ⟨_, prepared, environment.filledBy_fill bindings, ?_⟩,
        fun ⟨name, value, obstructed⟩ => absurd obstructed (free name value)⟩
      intro arguments durationMs accepted
      have shows := runLine_of_prepared prepared durationMs ⟨rfl, rfl, rfl⟩
      simpa only [run, accepted] using shows
    · have crashes : Crashes files line environment config name value :=
        ⟨configured, assigns.wanted, assigns.isFile, stops⟩
      refine ⟨fun free => absurd ⟨name, value, obstructed⟩ free, fun _ => ⟨?_, ?_⟩⟩
      · rintro ⟨filled, prepared⟩
        exact prepared.steady ⟨config, name, value, crashes⟩
      · intro arguments durationMs accepted
        rw [run, accepted]
        exact ⟨_, runLine_of_stop line configured crashes.stops durationMs⟩
  · intro config filled durationMs result bare bareFilled bareMs bareResult prepared succeeds
      barePrepared bareSucceeds
    obtain ⟨rfl, scan, check⟩ := prepared.withoutEnvFile barePrepared
    rw [checked_of_same scan check] at bareSucceeds
    obtain ⟨bindings, isFilled⟩ := filledBy_of_loadEnvFile prepared.loaded
    obtain ⟨fewer, found, firstSeen⟩ := checked_filled isFilled succeeds bareSucceeds
    refine ⟨fewer, found, firstSeen, fun strict name member empty => ?_⟩
    rw [missing_of_checked succeeds, List.mem_filter, strict, isFilled.isSet_of_empty empty]
    exact ⟨member, rfl⟩
  · intro others sameDirectory agree
    rw [sameDirectory]
    exact Config.load_of_agreeAt agree environment line.overrides

namespace GapFile

/-- Two values for one name, and one for a name that has an empty value. -/
def content : ByteArray := ⟨#[65, 61, 49, 10, 65, 61, 50, 10, 66, 61, 51]⟩

def files : FileSystem := EnvFileOnly.files content

def environment : Environment := ⟨[("B", "")]⟩

theorem assigns : Assigns files {} environment [("A", "1"), ("A", "2"), ("B", "3")] where
  wanted := rfl
  isFile := EnvFileOnly.isFile _
  reads := ⟨content, EnvFileOnly.read _, by cbv⟩

theorem configured : Config.load files (rootOf files.workingDirectory {}) none environment
    (CommandLine.overrides {}) = .ok {} := by
  have root : rootOf files.workingDirectory {} = "/" := by decide
  rw [root]
  exact bind_eq_ok_iff.mpr ⟨_, EnvFileOnly.project _, by decide⟩

/-- Any variable can have the values. -/
theorem free : ¬ ∃ name value,
    EnvFile.Obstructed environment [("A", "1"), ("A", "2"), ("B", "3")] name value := by
  rintro ⟨name, value, obstructed⟩
  have settable : ∀ binding ∈ [("A", "1"), ("A", "2"), ("B", "3")],
      EnvFile.isSettable binding.2 = true := by decide
  have taken := settable (name, value) (mem_of_lookup obstructed.first)
  exact absurd (taken.symm.trans obstructed.unsettable) (by decide)

end GapFile

theorem assigns_unsettable : Assigns UnsettableFile.files {} .empty [("A", "\x00")] where
  wanted := UnsettableFile.crashes.wanted
  isFile := UnsettableFile.crashes.isFile
  reads := ⟨_, EnvFileOnly.read _, by cbv⟩

theorem envFile_fills_gaps_sample :
    (∃ filled, Prepared GapFile.files {} GapFile.environment {} filled ∧
      filled.get? "A" = some "1" ∧ filled.get? "B" = some "" ∧ filled.get? "C" = none) ∧
    ∃ message, (run UnsettableFile.files [] .empty 0).Shows exitCrash "" message := by
  obtain ⟨filled, prepared, values, _⟩ :=
    ((envFile_fills_gaps GapFile.files {} GapFile.environment).1 {} _ GapFile.configured
      GapFile.assigns).1 GapFile.free
  have obstructed : EnvFile.Obstructed .empty [("A", "\x00")] "A" "\x00" := ⟨rfl, rfl, by decide⟩
  obtain ⟨_, breaksOff⟩ :=
    ((envFile_fills_gaps UnsettableFile.files {} .empty).1 {} _ UnsettableFile.crashes.configured
      assigns_unsettable).2 ⟨_, _, obstructed⟩
  exact ⟨⟨filled, prepared, values "A", values "B", values "C"⟩, breaksOff [] 0 rfl⟩

end Program

end EnvAudit
