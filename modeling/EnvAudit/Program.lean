import EnvAudit.Check
import EnvAudit.CommandLine.Parse
import EnvAudit.EnvFile.Assignment
import EnvAudit.Log

/-!
# The program

A run of the program reads the command line, the settings and the environment
file, checks the tree and shows the report.  It is a function of the files, the
arguments and the environment.
-/

namespace EnvAudit

/-- How a run of the program ends. -/
structure Outcome where
  exitCode : Nat
  /-- What is written for the caller. -/
  stdout : String
  /-- What is written about failures. -/
  stderr : String
  /-- What is written about the course of the run. -/
  log : List Log.Record
  deriving BEq, DecidableEq, Repr, Inhabited

namespace Program

/-- The code of a run that found nothing missing. -/
def exitComplete : Nat := 0

/-- The code of a run that found something missing. -/
def exitMissing : Nat := 1

/-- The code of a run that failed. -/
def exitFailure : Nat := 2

/-- The code of a run that broke off. -/
def exitCrash : Nat := 101

/-- The variable that holds directives for the log. -/
def logVariable : String := "ENVCHECK_LOG"

/-- What directives call the parts of the program other than the first. -/
def settingsPart : String := "envcheck_core::config::envcheck_config"

def ignorePart : String := "envcheck_analysis::scanner::ignores"

def checkPart : String := "envcheck_analysis::checker::checker"

/-- The directives for the log: those of the environment, unless there are none or
they make no sense. -/
def logDirectives (environment : Environment) (verbose : Bool) : List Log.Directive :=
  ((environment.get? logVariable).bind Log.Directive.listOfText?).getD [{
    target := CommandLine.programName
    limit := some (if verbose then .info else .warn) }]

/-- How a run stops before anything is checked. -/
inductive Stop where
  /-- The run fails and says why. -/
  | failure (message : String)
  /-- The run breaks off where it stands. -/
  | crash (message : String)
  deriving BEq, DecidableEq, Repr, Inhabited

/-- What becomes of a run whose environment file has a fault.  A variable that cannot be set
is no error that the run takes account of. -/
def stopAt (path : String) : EnvFile.Fault → Stop
  | .unsettable name value => .crash (EnvFile.Fault.unsettable name value).message
  | fault => .failure (": ".intercalate (s!"failed to load {path}" :: fault.chain))

/-- The environment after the assignments of the environment file that the
settings name, unless the run stops there.  A file that is not named explicitly need
not exist. -/
def loadEnvFile (files : FileSystem) (settings : EnvFileConfig) (environment : Environment) :
    Except Stop Environment :=
  let path := settings.effectiveFile
  if !settings.effectiveLoad then
    .ok environment
  else if files.isFile path then
    (EnvFile.load files path environment).mapError (stopAt path)
  else if settings.file.isSome then
    .error (.failure s!"env file {path} not found")
  else
    .ok environment

/-- The record of a settings file that makes sense. -/
def ofSettingsFile (files : FileSystem) (root : String) (named : Option String) :
    List Log.Record :=
  match Config.ofProject files root named, Config.file? files root named with
  | .ok _, some path => [⟨.debug, settingsPart, "loaded config file", [("path", path)]⟩]
  | _, _ => []

/-- The record of an environment file that has been loaded. -/
def ofEnvFile (files : FileSystem) (settings : EnvFileConfig) : List Log.Record :=
  let path := settings.effectiveFile
  if settings.effectiveLoad && files.isFile path then
    [⟨.info, CommandLine.programName, "loaded env file", [("path", path)]⟩]
  else
    []

/-- The record of an ignore file with faults that was passed over. -/
def ofIgnoreFile (path : String) (faults : List IgnoreFault) : Log.Record :=
  let messages := "\n".intercalate (faults.map fun fault => fault.message path)
  ⟨.warn, ignorePart, "skipping invalid ignore rules", [("path", path), ("error", messages)]⟩

/-- The records of an event. -/
def ofEvent : Event → List Log.Record
  | .started root fileCount ignored =>
      let fields := [("root", root), ("files", toString fileCount)]
      [⟨.info, checkPart, "collected source files", fields ++ [("ignored", toString ignored)]⟩,
        ⟨.info, CommandLine.programName, "scan started", fields⟩]
  | .checked file names =>
      [⟨.debug, checkPart, "checked", [
        ("path", file.path),
        ("dialect", file.dialect.name),
        ("names", toString names)]⟩]
  | .skipped path cause =>
      let skipped : Log.Record :=
        ⟨.info, CommandLine.programName, "file skipped", [("path", path), ("reason", cause.reason)]⟩
      match cause with
      | .tooLarge _ => [skipped]
      | .unparsable error =>
          [⟨.warn, checkPart, "skipping unparsable file", [
            ("path", path),
            ("error", error.message)]⟩, skipped]
  | .complete scanned skipped found missing =>
      [⟨.info, CommandLine.programName, "scan complete", [
        ("files", toString scanned),
        ("skipped", toString skipped),
        ("found", toString found),
        ("missing", toString missing)]⟩]

/-- The records of a check. -/
def ofCheck (run : CheckRun) : List Log.Record :=
  run.passedOver.map (fun (path, faults) => ofIgnoreFile path faults) ++ run.events.flatMap ofEvent

/-- The outcome of a run that fails before anything is checked. -/
def failure (message : String) : Outcome :=
  ⟨exitFailure, "", s!"error: {message}\n", []⟩

/-- The outcome of a run that breaks off before anything is checked. -/
def crash (message : String) : Outcome :=
  ⟨exitCrash, "", message ++ "\n", []⟩

def Stop.outcome : Stop → Outcome
  | failure message => Program.failure message
  | crash message => Program.crash message

/-- Why a report for programs is not written to its end. -/
def garbledPath : String := "path contains invalid UTF-8 characters"

/-- Shows a check. -/
def present (files : FileSystem) (format : ReportFormat) (root : String) (run : CheckRun) :
    Outcome :=
  let log := ofCheck run
  let announcement := match format with
    | .human => s!"Scanning directory: {root}\n"
    | .json => ""
  match run.outcome with
  | .error error =>
      let message := ": ".intercalate (s!"failed to check {root}" :: error.chain)
      ⟨exitFailure, announcement, s!"error: {message}\n", log⟩
  | .ok result =>
      let exitCode := if result.isComplete then exitComplete else exitMissing
      match format with
      | .human =>
          let report := Report.human result
          if result.isComplete then
            ⟨exitCode, announcement ++ report, "", log⟩
          else
            ⟨exitCode, announcement, report, log⟩
      | .json =>
          match Report.begunJson? files.isText result with
          | some begun => ⟨exitFailure, begun, s!"error: {garbledPath}\n", log⟩
          | none => ⟨exitCode, Report.json result, "", log⟩

/-- The directory that a command line names. -/
def rootOf (workingDirectory : String) (line : CommandLine) : String :=
  Path.absolute workingDirectory (line.path.getD ".")

/-- Runs the program with settings. -/
def runConfig (files : FileSystem) (config : Config) (format : ReportFormat) (root : String)
    (environment : Environment) (durationMs : Nat) : Outcome :=
  match loadEnvFile files config.env environment with
  | .error stop => stop.outcome
  | .ok filled =>
      let outcome := present files format root (Check.run config files root filled durationMs)
      { outcome with log := ofEnvFile files config.env ++ outcome.log }

/-- Runs the program as a command line says, and keeps the records that directives
allow. -/
def runLine (files : FileSystem) (line : CommandLine) (environment : Environment)
    (durationMs : Nat) : Outcome :=
  let root := rootOf files.workingDirectory line
  let outcome := match Config.load files root line.config environment line.overrides with
    | .error error => failure s!"failed to load configuration: {error.message}"
    | .ok config => runConfig files config line.format root environment durationMs
  let records := ofSettingsFile files root line.config ++ outcome.log
  { outcome with
    log := records.filter (Log.Directive.allow (logDirectives environment line.verbose)) }

/-- Runs the program with arguments. -/
def run (files : FileSystem) (arguments : List String) (environment : Environment)
    (durationMs : Nat) : Outcome :=
  match CommandLine.parse arguments with
  | .ok line => runLine files line environment durationMs
  | .error refusal =>
      if refusal.isRequested then
        ⟨exitComplete, refusal.text, "", []⟩
      else
        ⟨exitFailure, "", refusal.text, []⟩

end Program

end EnvAudit
