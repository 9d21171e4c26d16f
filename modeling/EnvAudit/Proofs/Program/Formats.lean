import EnvAudit.Proofs.Check.Outcome
import EnvAudit.Proofs.Program.ExitCode

/-!
# Formats of the report

The format of the report has no part in the verdict.  It decides where the report is written:
a report for programs stands alone on the standard output, and one for people, behind a line
that tells what is scanned, is a message about failures where something is missing.

A report for programs has texts only.  Where the report tells of a path that is no text, a run
for people ends as ever, but one for programs fails behind the beginning of its report.
-/

namespace EnvAudit

/-- A run ends with a code and writes two texts, whatever is in the log. -/
structure Outcome.Shows (outcome : Outcome) (exitCode : Nat) (stdout stderr : String) : Prop where
  exitCode : outcome.exitCode = exitCode
  stdout : outcome.stdout = stdout
  stderr : outcome.stderr = stderr

namespace Program

/-- The settings load, and the environment file can be loaded. -/
structure Prepared (files : FileSystem) (line : CommandLine) (environment : Environment)
    (config : Config) (filled : Environment) : Prop where
  configured : Config.load files (rootOf files.workingDirectory line) line.config environment
    line.overrides = .ok config
  loaded : loadEnvFile files config.env environment = .ok filled

/-- The line that tells people what is scanned. -/
def announcement (root : String) : String :=
  s!"Scanning directory: {root}\n"

/-- What is written before the report. -/
def heading (root : String) : ReportFormat → String
  | .human => announcement root
  | .json => ""

/-- What is said of a check that failed. -/
def complaint (root : String) (error : CheckError) : String :=
  let message := ": ".intercalate (s!"failed to check {root}" :: error.chain)
  s!"error: {message}\n"

section Present

variable (files : FileSystem) (root : String) {run : CheckRun} {result : CheckResult}

theorem present_of_error {error : CheckError} (fails : run.outcome = .error error)
    (format : ReportFormat) :
    (present files format root run).Shows exitFailure (heading root format)
      (complaint root error) := by
  simp only [present, fails]
  cases format with
  | human => exact ⟨rfl, rfl, rfl⟩
  | json => exact ⟨rfl, rfl, rfl⟩

theorem present_human_of_complete (succeeds : run.outcome = .ok result)
    (complete : result.isComplete) :
    (present files .human root run).Shows exitComplete (announcement root ++ Report.human result)
      "" := by
  simp only [present, succeeds, if_pos complete]
  exact ⟨rfl, rfl, rfl⟩

theorem present_human_of_missing (succeeds : run.outcome = .ok result)
    (missing : ¬ result.isComplete) :
    (present files .human root run).Shows exitMissing (announcement root)
      (Report.human result) := by
  simp only [present, succeeds, if_neg missing]
  exact ⟨rfl, rfl, rfl⟩

/-- Programs get the report on the standard output, whatever the verdict is. -/
theorem present_json_of_writable (succeeds : run.outcome = .ok result)
    (writable : Report.Writable files.isText .json result) :
    (present files .json root run).Shows (if result.isComplete then exitComplete else exitMissing)
      (Report.json result) "" := by
  simp only [present, succeeds, Report.begunJson?_of_writable writable]
  exact ⟨rfl, rfl, rfl⟩

/-- What is said of a report that is not written to its end. -/
def breakOffComplaint : String :=
  s!"error: {garbledPath}\n"

/-- Programs get the beginning of a report that is not written to its end. -/
theorem present_json_of_begun {begun : String} (succeeds : run.outcome = .ok result)
    (known : Report.begunJson? files.isText result = some begun) :
    (present files .json root run).Shows exitFailure begun breakOffComplaint := by
  simp only [present, succeeds, known]
  exact ⟨rfl, rfl, rfl⟩

end Present

section Runs

variable {files : FileSystem} {line : CommandLine} {environment filled : Environment}
variable {config : Config}

/-- The format of the report has no part in the preparation. -/
theorem Prepared.withFormat (prepared : Prepared files line environment config filled)
    (format : ReportFormat) :
    Prepared files { line with format } environment config filled :=
  ⟨prepared.configured, prepared.loaded⟩

/-- A run shows its check if the settings and the environment file are loaded. -/
theorem runLine_of_prepared (prepared : Prepared files line environment config filled)
    (durationMs : Nat) {exitCode : Nat} {stdout stderr : String}
    (shows : (present files line.format (rootOf files.workingDirectory line)
      (Check.run config files (rootOf files.workingDirectory line) filled durationMs)).Shows
        exitCode stdout stderr) :
    (runLine files line environment durationMs).Shows exitCode stdout stderr := by
  simp only [runLine, prepared.configured, runConfig, prepared.loaded]
  exact ⟨shows.exitCode, shows.stdout, shows.stderr⟩

theorem runLine_of_misconfigured (line : CommandLine) {error : ConfigError}
    (fails : Config.load files (rootOf files.workingDirectory line) line.config environment
      line.overrides = .error error) (durationMs : Nat) :
    (runLine files line environment durationMs).Shows exitFailure ""
      (failure s!"failed to load configuration: {error.message}").stderr := by
  simp only [runLine, fails]
  exact ⟨rfl, rfl, rfl⟩

theorem runLine_of_stop (line : CommandLine) {stop : Stop}
    (configured : Config.load files (rootOf files.workingDirectory line) line.config environment
      line.overrides = .ok config)
    (stops : loadEnvFile files config.env environment = .error stop) (durationMs : Nat) :
    (runLine files line environment durationMs).Shows stop.outcome.exitCode ""
      stop.outcome.stderr := by
  simp only [runLine, configured, runConfig, stops]
  cases stop with
  | failure message => exact ⟨rfl, rfl, rfl⟩
  | crash message => exact ⟨rfl, rfl, rfl⟩

/-- Otherwise it writes nothing for the caller, in whatever format, and fails or breaks off. -/
theorem runLine_of_unprepared
    (unprepared : ¬ ∃ config filled, Prepared files line environment config filled) :
    ∃ exitCode message,
      (exitCode = exitFailure ∨
        (∃ config name value, Crashes files line environment config name value) ∧
          exitCode = exitCrash) ∧
      ∀ format durationMs,
        (runLine files { line with format } environment durationMs).Shows exitCode "" message := by
  cases configured : Config.load files (rootOf files.workingDirectory line) line.config
      environment line.overrides with
  | error error =>
      exact ⟨_, _, .inl rfl, fun format durationMs =>
        runLine_of_misconfigured { line with format } configured durationMs⟩
  | ok config =>
      cases loaded : loadEnvFile files config.env environment with
      | ok filled => exact absurd ⟨config, filled, configured, loaded⟩ unprepared
      | error stop =>
          refine ⟨_, _, ?_, fun format durationMs =>
            runLine_of_stop { line with format } configured loaded durationMs⟩
          cases stop with
          | failure message => exact .inl rfl
          | crash message =>
              obtain ⟨wanted, isFile, name, value, obstructed⟩ := loadEnvFile_eq_crash loaded
              exact .inr ⟨⟨config, name, value, configured, wanted, isFile, obstructed⟩, rfl⟩

/-- There is one way to prepare a run. -/
theorem Prepared.unique {otherConfig : Config} {otherFilled : Environment}
    (prepared : Prepared files line environment config filled)
    (again : Prepared files line environment otherConfig otherFilled) :
    config = otherConfig ∧ filled = otherFilled := by
  cases prepared.configured.symm.trans again.configured
  cases prepared.loaded.symm.trans again.loaded
  exact ⟨rfl, rfl⟩

/-- A prepared run does not break off. -/
theorem Prepared.steady (prepared : Prepared files line environment config filled) :
    ¬ ∃ config name value, Crashes files line environment config name value := by
  rintro ⟨other, name, value, crashes⟩
  cases prepared.configured.symm.trans crashes.configured
  cases prepared.loaded.symm.trans crashes.stops

/-- What the check of a prepared run comes to. -/
def checked (files : FileSystem) (line : CommandLine) (config : Config) (filled : Environment)
    (durationMs : Nat) : Except CheckError CheckResult :=
  (Check.run config files (rootOf files.workingDirectory line) filled durationMs).outcome

theorem checked_lasting (files : FileSystem) (line : CommandLine) (config : Config)
    (filled : Environment) (durationMs otherDurationMs : Nat) :
    checked files line config filled otherDurationMs =
      (checked files line config filled durationMs).map (·.lasting otherDurationMs) := by
  rw [checked, Check.run_lasting config files _ filled durationMs]
  rfl

/-- The code of a run with this result. -/
def verdictCode (result : CheckResult) : Nat :=
  if result.isComplete then exitComplete else exitMissing

/-- People get the report behind the line that tells what is scanned, or as a message about
failures where something is missing. -/
inductive ToldPeople (root : String) (result : CheckResult) (outcome : Outcome) : Prop
  | complete (all : result.isComplete)
      (shows : outcome.Shows exitComplete (announcement root ++ Report.human result) "")
  | missing (some : ¬ result.isComplete)
      (shows : outcome.Shows exitMissing (announcement root) (Report.human result))

/-- Programs get the report, or the beginning of one that tells of a path that is no text. -/
inductive ToldPrograms (files : FileSystem) (result : CheckResult) (outcome : Outcome) : Prop
  | whole (writable : Report.Writable files.isText .json result)
      (shows : outcome.Shows (verdictCode result) (Report.json result) "")
  | begun {text : String} (unwritable : ¬ Report.Writable files.isText .json result)
      (breaks : BreaksOff text.toList (Report.json result).toList)
      (shows : outcome.Shows exitFailure text breakOffComplaint)

theorem ToldPeople.exitCode {root : String} {result : CheckResult} {outcome : Outcome}
    (told : ToldPeople root result outcome) : outcome.exitCode = verdictCode result := by
  cases told with
  | complete all shows => rw [shows.exitCode, verdictCode, if_pos all]
  | missing some shows => rw [shows.exitCode, verdictCode, if_neg some]

theorem verdictCode_ne_failure (result : CheckResult) : verdictCode result ≠ exitFailure := by
  rw [verdictCode]
  split <;> decide

theorem toldPeople_runLine {durationMs : Nat} {result : CheckResult}
    (prepared : Prepared files line environment config filled)
    (succeeds : checked files line config filled durationMs = .ok result) :
    ToldPeople (rootOf files.workingDirectory line) result
      (runLine files { line with format := .human } environment durationMs) := by
  have human := prepared.withFormat .human
  by_cases complete : result.isComplete
  · exact .complete complete (runLine_of_prepared human _
      (present_human_of_complete files _ succeeds complete))
  · exact .missing complete (runLine_of_prepared human _
      (present_human_of_missing files _ succeeds complete))

theorem toldPrograms_runLine {durationMs : Nat} {result : CheckResult}
    (prepared : Prepared files line environment config filled)
    (succeeds : checked files line config filled durationMs = .ok result) :
    ToldPrograms files result
      (runLine files { line with format := .json } environment durationMs) := by
  have json := prepared.withFormat .json
  by_cases writable : Report.Writable files.isText .json result
  · exact .whole writable (runLine_of_prepared json _
      (present_json_of_writable files _ succeeds writable))
  · obtain ⟨text, known⟩ := Report.begunJson?_of_not_writable writable
    exact .begun writable (Report.breaksOff_begunJson? known)
      (runLine_of_prepared json _ (present_json_of_begun files _ succeeds known))

/-- How a run for people and one for programs end, which last `humanMs` and `jsonMs`. -/
inductive Compared (files : FileSystem) (line : CommandLine) (environment : Environment)
    (humanMs jsonMs : Nat) (human json : Outcome) : Prop
  | unprepared {exitCode : Nat} {message : String}
      (never : ¬ ∃ config filled, Prepared files line environment config filled)
      (ends : exitCode = exitFailure ∨
        (∃ config name value, Crashes files line environment config name value) ∧
          exitCode = exitCrash)
      (human : human.Shows exitCode "" message) (json : json.Shows exitCode "" message)
  | failed {config : Config} {filled : Environment} {error : CheckError}
      (prepared : Prepared files line environment config filled)
      (fails : checked files line config filled humanMs = .error error)
      (human : human.Shows exitFailure (announcement (rootOf files.workingDirectory line))
        (complaint (rootOf files.workingDirectory line) error))
      (json : json.Shows exitFailure "" (complaint (rootOf files.workingDirectory line) error))
  | succeeded {config : Config} {filled : Environment} {result : CheckResult}
      (prepared : Prepared files line environment config filled)
      (succeeds : ∀ durationMs,
        checked files line config filled durationMs = .ok (result.lasting durationMs))
      (human : ToldPeople (rootOf files.workingDirectory line) (result.lasting humanMs) human)
      (json : ToldPrograms files (result.lasting jsonMs) json)

theorem compared_runLine (files : FileSystem) (line : CommandLine) (environment : Environment)
    (humanMs jsonMs : Nat) :
    Compared files line environment humanMs jsonMs
      (runLine files { line with format := .human } environment humanMs)
      (runLine files { line with format := .json } environment jsonMs) := by
  by_cases prepared : ∃ config filled, Prepared files line environment config filled
  · obtain ⟨config, filled, prepared⟩ := prepared
    have human := prepared.withFormat .human
    have json := prepared.withFormat .json
    have lasts := checked_lasting files line config filled 0
    cases ends : checked files line config filled 0 with
    | error error =>
        have fails (durationMs : Nat) :
            checked files line config filled durationMs = .error error := by
          rw [lasts, ends]
          rfl
        exact .failed prepared (fails humanMs)
          (runLine_of_prepared human _ (present_of_error files _ (fails _) _))
          (runLine_of_prepared json _ (present_of_error files _ (fails _) _))
    | ok result =>
        have succeeds (durationMs : Nat) :
            checked files line config filled durationMs = .ok (result.lasting durationMs) := by
          rw [lasts, ends]
          rfl
        exact .succeeded prepared succeeds (toldPeople_runLine prepared (succeeds humanMs))
          (toldPrograms_runLine prepared (succeeds jsonMs))
  · obtain ⟨exitCode, message, ends, shows⟩ := runLine_of_unprepared prepared
    exact .unprepared prepared ends (shows .human humanMs) (shows .json jsonMs)

/-- The check comes to a result, and its report for programs tells of a path that is no text. -/
structure Unwritable (files : FileSystem) (line : CommandLine) (environment : Environment)
    (durationMs : Nat) (result : CheckResult) : Prop where
  checked : ∃ config filled, Prepared files line environment config filled ∧
    checked files line config filled durationMs = .ok result
  garbled : ¬ Report.Writable files.isText .json result

namespace Compared

variable {humanMs jsonMs : Nat} {human json : Outcome} {result : CheckResult}

theorem exitCode_eq (compared : Compared files line environment humanMs jsonMs human json)
    (written : ¬ ∃ result, Unwritable files line environment jsonMs result) :
    human.exitCode = json.exitCode := by
  cases compared with
  | unprepared _ _ human json => exact human.exitCode.trans json.exitCode.symm
  | failed _ _ human json => exact human.exitCode.trans json.exitCode.symm
  | succeeded prepared succeeds human json =>
      cases json with
      | whole _ shows => exact human.exitCode.trans shows.exitCode.symm
      | begun unwritable _ _ =>
          exact absurd ⟨_, ⟨_, _, prepared, succeeds jsonMs⟩, unwritable⟩ written

/-- Programs get nothing from a run that fails. -/
theorem silent (compared : Compared files line environment humanMs jsonMs human json)
    (written : ¬ ∃ result, Unwritable files line environment jsonMs result)
    (fails : json.exitCode = exitFailure) : json.stdout = "" := by
  cases compared with
  | unprepared _ _ _ json => exact json.stdout
  | failed _ _ _ json => exact json.stdout
  | succeeded prepared succeeds _ json =>
      cases json with
      | whole _ shows =>
          exact absurd (shows.exitCode.symm.trans fails) (verdictCode_ne_failure _)
      | begun unwritable _ _ =>
          exact absurd ⟨_, ⟨_, _, prepared, succeeds jsonMs⟩, unwritable⟩ written

/-- A path that is no text makes the run for programs fail, behind the beginning of its report. -/
theorem breaksOff (compared : Compared files line environment humanMs jsonMs human json)
    (unwritable : Unwritable files line environment jsonMs result) :
    human.exitCode = verdictCode result ∧ json.exitCode = exitFailure ∧
      BreaksOff json.stdout.toList (Report.json result).toList := by
  obtain ⟨⟨config, filled, prepared, checked⟩, garbled⟩ := unwritable
  cases compared with
  | unprepared never => exact absurd ⟨_, _, prepared⟩ never
  | failed again fails =>
      obtain ⟨rfl, rfl⟩ := again.unique prepared
      rw [checked_lasting files line _ _ humanMs, fails] at checked
      cases checked
  | succeeded again succeeds human json =>
      obtain ⟨rfl, rfl⟩ := again.unique prepared
      cases checked.symm.trans (succeeds jsonMs)
      cases json with
      | whole writable _ => exact absurd writable garbled
      | begun _ breaks shows =>
          rw [shows.stdout]
          exact ⟨human.exitCode, shows.exitCode, breaks⟩

/-- Programs get a report from a run that does not fail. -/
theorem reports (compared : Compared files line environment humanMs jsonMs human json)
    (steady : ¬ ∃ config name value, Crashes files line environment config name value)
    (ends : json.exitCode ≠ exitFailure) :
    ∃ config filled result, Prepared files line environment config filled ∧
      checked files line config filled jsonMs = .ok result ∧
      json.stdout = Report.json result := by
  cases compared with
  | unprepared _ failed _ json =>
      rcases failed with failed | ⟨crashes, _⟩
      · exact absurd (json.exitCode.trans failed) ends
      · exact absurd crashes steady
  | failed _ _ _ json => exact absurd json.exitCode ends
  | succeeded prepared succeeds _ json =>
      cases json with
      | whole _ shows => exact ⟨_, _, _, prepared, succeeds jsonMs, shows.stdout⟩
      | begun _ _ shows => exact absurd shows.exitCode ends

theorem of_unprepared (compared : Compared files line environment humanMs jsonMs human json)
    (never : ¬ ∃ config filled, Prepared files line environment config filled) :
    human.stdout = "" := by
  cases compared with
  | unprepared _ _ human _ => exact human.stdout
  | failed prepared => exact absurd ⟨_, _, prepared⟩ never
  | succeeded prepared => exact absurd ⟨_, _, prepared⟩ never

/-- A prepared run shows people what its check comes to. -/
theorem of_prepared (compared : Compared files line environment humanMs jsonMs human json)
    (prepared : Prepared files line environment config filled) :
    (∃ result, checked files line config filled humanMs = .ok result ∧
      ToldPeople (rootOf files.workingDirectory line) result human) ∨
    ∃ error, checked files line config filled humanMs = .error error ∧
      human.Shows exitFailure (announcement (rootOf files.workingDirectory line))
        (complaint (rootOf files.workingDirectory line) error) := by
  cases compared with
  | unprepared never => exact absurd ⟨_, _, prepared⟩ never
  | failed again fails human _ =>
      obtain ⟨rfl, rfl⟩ := again.unique prepared
      exact .inr ⟨_, fails, human⟩
  | succeeded again succeeds human _ =>
      obtain ⟨rfl, rfl⟩ := again.unique prepared
      exact .inl ⟨_, succeeds humanMs, human⟩

end Compared

end Runs

/-- A run for people and one for programs that otherwise say the same end with the same code, and
programs get nothing on the standard output from one that fails, unless the report tells of a path
that is no text.  Then the run for people ends as the verdict says, while the one for programs
fails behind the beginning of its report.  Where it does not fail, programs get the report of the
check on the standard output and nothing else.  People get nothing there if the preparation fails,
and otherwise first the line that tells what is scanned; the report follows it where nothing is
missing, and goes to the failures where something is. -/
theorem formats_agree {humanArguments jsonArguments : List String} {line : CommandLine}
    (humanAccepted : CommandLine.parse humanArguments = .ok { line with format := .human })
    (jsonAccepted : CommandLine.parse jsonArguments = .ok { line with format := .json })
    (files : FileSystem) (environment : Environment) (humanMs jsonMs : Nat) :
    let root := rootOf files.workingDirectory line
    let human := run files humanArguments environment humanMs
    let json := run files jsonArguments environment jsonMs
    ((¬ ∃ result, Unwritable files line environment jsonMs result) →
      human.exitCode = json.exitCode ∧ (json.exitCode = 2 → json.stdout = "")) ∧
    (∀ result, Unwritable files line environment jsonMs result →
      human.exitCode = verdictCode result ∧ json.exitCode = 2 ∧
        BreaksOff json.stdout.toList (Report.json result).toList) ∧
    ((¬ ∃ config name value, Crashes files line environment config name value) →
      json.exitCode ≠ 2 → ∃ config filled result,
        Prepared files line environment config filled ∧
          checked files line config filled jsonMs = .ok result ∧
          json.stdout = Report.json result) ∧
    ((¬ ∃ config filled, Prepared files line environment config filled) →
      human.stdout = "") ∧
    ∀ config filled, Prepared files line environment config filled →
      (∃ result, checked files line config filled humanMs = .ok result ∧
        human.Shows 0 (announcement root ++ Report.human result) "") ∨
      (∃ result, checked files line config filled humanMs = .ok result ∧
        human.Shows 1 (announcement root) (Report.human result)) ∨
      ∃ error, checked files line config filled humanMs = .error error ∧
        human.Shows 2 (announcement root) (complaint root error) := by
  intro root human json
  have isHuman : human = runLine files { line with format := .human } environment humanMs := by
    simp only [human, run, humanAccepted]
  have isJson : json = runLine files { line with format := .json } environment jsonMs := by
    simp only [json, run, jsonAccepted]
  have compared := compared_runLine files line environment humanMs jsonMs
  rw [← isHuman, ← isJson] at compared
  refine ⟨fun written => ⟨compared.exitCode_eq written, compared.silent written⟩,
    fun _ => compared.breaksOff, compared.reports, compared.of_unprepared, ?_⟩
  intro config filled prepared
  rcases compared.of_prepared prepared with ⟨result, succeeds, told⟩ | failed
  · cases told with
    | complete _ shows => exact .inl ⟨result, succeeds, shows⟩
    | missing _ shows => exact .inr (.inl ⟨result, succeeds, shows⟩)
  · exact .inr (.inr failed)

end Program

namespace ScriptTree

variable {tree : ScriptTree}

theorem Plain.prepared (plain : tree.Plain) (format : ReportFormat) :
    Program.Prepared tree.files (tree.line format) .empty settings .empty :=
  ⟨plain.configured, rfl⟩

theorem Plain.checked_eq (plain : tree.Plain) (format : ReportFormat) (durationMs : Nat) :
    Program.checked tree.files (tree.line format) settings .empty durationMs =
      .ok (tree.result durationMs) := by
  rw [Program.checked, plain.rootOf_line]
  exact plain.outcome_run durationMs

end ScriptTree

namespace Program

open ScriptTree (pair nameless)

theorem formats_agree_pair :
    CommandLine.parse ["/app", "--skip-unparsable", "--no-env-file"] =
        .ok { pair.line .human with format := .human } ∧
      CommandLine.parse ["/app", "--skip-unparsable", "--no-env-file", "--format=json"] =
        .ok { pair.line .human with format := .json } ∧
      (run pair.files ["/app", "--skip-unparsable", "--no-env-file"] .empty 0).exitCode =
        (run pair.files ["/app", "--skip-unparsable", "--no-env-file", "--format=json"] .empty
          1).exitCode ∧
      (run pair.files ["/app", "--skip-unparsable", "--no-env-file", "--format=json"] .empty
        1).stdout = Report.json (pair.result 1) := by
  have humanAccepted : CommandLine.parse ["/app", "--skip-unparsable", "--no-env-file"] =
      .ok { pair.line .human with format := .human } := by rfl
  have jsonAccepted : CommandLine.parse
      ["/app", "--skip-unparsable", "--no-env-file", "--format=json"] =
      .ok { pair.line .human with format := .json } := by rfl
  have plain := ScriptTree.pair_plain
  have prepared := plain.prepared .human
  obtain ⟨agree, _, reported, _, shown⟩ :=
    formats_agree humanAccepted jsonAccepted pair.files .empty 0 1
  have written : ¬ ∃ result, Unwritable pair.files (pair.line .human) .empty 1 result := by
    rintro ⟨result, _, garbled⟩
    exact garbled fun _ path _ => by simp [FileSystem.isText, ScriptTree.files, pair]
  have sameCode := (agree written).1
  refine ⟨humanAccepted, jsonAccepted, sameCode, ?_⟩
  have steady : (run pair.files ["/app", "--skip-unparsable", "--no-env-file", "--format=json"]
      .empty 1).exitCode ≠ 2 := by
    rw [← sameCode]
    rcases shown _ _ prepared with ⟨_, _, shows⟩ | ⟨_, _, shows⟩ | ⟨error, fails, _⟩
    · rw [shows.exitCode]
      decide
    · rw [shows.exitCode]
      decide
    · cases (plain.checked_eq .human 0).symm.trans fails
  obtain ⟨config, filled, result, again, succeeds, printed⟩ := reported prepared.steady steady
  obtain ⟨rfl, rfl⟩ := prepared.unique again
  cases (plain.checked_eq .human 1).symm.trans succeeds
  exact printed

/-- A report for programs begins with a brace. -/
theorem head?_json (result : CheckResult) :
    (Report.json result).toList.head? = some '\x7b' := by
  rw [Report.json, String.toList_append, Json.pretty, String.toList_ofList, Report.ofResult]
  cases result.root <;> simp [Json.write]

/-- Help does not. -/
theorem head?_help : CommandLine.Refusal.helpWanted.text.toList.head? = some 'R' := by
  rw [CommandLine.Refusal.text, CommandLine.help]
  simp

theorem help_ne_json (result : CheckResult) :
    CommandLine.Refusal.helpWanted.text ≠ Report.json result := by
  intro same
  have first := congrArg (·.toList.head?) same
  simp only [head?_help, head?_json] at first
  exact absurd first (by decide)

/-- A directory whose name is no text makes a run for programs fail that does not fail for people,
and then something stands on the standard output.  It is no report either where the command line
asks for help. -/
theorem formats_differ :
    CommandLine.parse ["/\uFFFD", "--skip-unparsable", "--no-env-file"] =
        .ok (nameless.line .human) ∧
      CommandLine.parse ["/\uFFFD", "--skip-unparsable", "--no-env-file", "--format=json"] =
        .ok (nameless.line .json) ∧
      (run nameless.files ["/\uFFFD", "--skip-unparsable", "--no-env-file"] .empty 0).exitCode = 0 ∧
      (run nameless.files ["/\uFFFD", "--skip-unparsable", "--no-env-file", "--format=json"] .empty
        0).exitCode = 2 ∧
      (run nameless.files ["/\uFFFD", "--skip-unparsable", "--no-env-file", "--format=json"] .empty
        0).stdout = "\x7b\n  \"root\": " ∧
      (run nameless.files ["--format", "json", "--help"] .empty 0).exitCode = 0 ∧
      ∀ result, (run nameless.files ["--format", "json", "--help"] .empty 0).stdout ≠
        Report.json result := by
  have humanAccepted : CommandLine.parse ["/\uFFFD", "--skip-unparsable", "--no-env-file"] =
      .ok (nameless.line .human) := by rfl
  have jsonAccepted : CommandLine.parse
      ["/\uFFFD", "--skip-unparsable", "--no-env-file", "--format=json"] =
      .ok (nameless.line .json) := by rfl
  have plain := ScriptTree.nameless_plain
  have begun : Report.begunJson? nameless.files.isText (nameless.result 0) =
      some "\x7b\n  \"root\": " := by rfl
  have human := runLine_of_prepared (plain.prepared .human) 0
    (present_human_of_complete _ _ (plain.checked_eq .human 0) rfl)
  have json := runLine_of_prepared (plain.prepared .json) 0
    (present_json_of_begun _ _ (plain.checked_eq .json 0) begun)
  have help : CommandLine.parse ["--format", "json", "--help"] = .error .helpWanted := by rfl
  refine ⟨humanAccepted, jsonAccepted, ?_, ?_, ?_, ?_, fun result => ?_⟩
  · rw [run, humanAccepted]
    exact human.exitCode
  · rw [run, jsonAccepted]
    exact json.exitCode
  · rw [run, jsonAccepted]
    exact json.stdout
  · rw [run, help]
    rfl
  · rw [run, help]
    exact help_ne_json result

end Program

end EnvAudit
