import EnvAudit.Extraction
import EnvAudit.Findings
import EnvAudit.Text.Utf8
import EnvAudit.Walk

/-!
# Checks

A check collects the source files below a directory, gathers the references in
them and judges the names by an environment.  It reports events on the way.
-/

namespace EnvAudit

/-- Why a source file is left out. -/
inductive SkipCause where
  | tooLarge (limit : Nat)
  | unparsable (error : ParseError)
  deriving BEq, DecidableEq, Repr, Inhabited

/-- The cause as it is told to people. -/
def SkipCause.reason : SkipCause → String
  | tooLarge limit => s!"larger than max_file_size ({limit} bytes)"
  | unparsable error => error.message

/-- What happens during a check. -/
inductive Event where
  /-- The files have been collected: there are so many to read, and so many entries
  were left out by the ignore rules. -/
  | started (root : String) (fileCount ignored : Nat)
  /-- A file has been read, and it refers to so many names. -/
  | checked (file : SourceFile) (names : Nat)
  | skipped (path : String) (cause : SkipCause)
  | complete (filesScanned filesSkipped found missing : Nat)
  deriving BEq, DecidableEq, Repr, Inhabited

/-- A check with the events that it reported. -/
structure CheckRun where
  /-- The ignore files with faults that were passed over. -/
  passedOver : List (String × List IgnoreFault)
  events : List Event
  outcome : Except CheckError CheckResult

namespace Check

/-- The text of a source file. -/
def readSource (files : FileSystem) (path : String) : Except ScanError String :=
  match files.read path with
  | .error failure => .error (.io path failure)
  | .ok bytes =>
      match String.fromUTF8? bytes with
      | some text => .ok text
      | none =>
          .error (.unsupportedEncoding path s!"invalid UTF-8 at byte {Text.validLength bytes}")

/-- The references in a source file, and the session after it. -/
def readFile (files : FileSystem) (session : Session) (file : SourceFile) :
    Except CheckError (List Reference) × Session :=
  match readSource files file.path with
  | .error error => (.error (.scan error), session)
  | .ok text =>
      let (found, session) := session.references text file.dialect
      (found.mapError fun error => .parse (error.atPath file.path), session)

/-- What is known while the files are read. -/
structure Progress where
  findings : Findings
  events : List Event
  scanned : Nat
  session : Session

namespace Progress

/-- Leaves out a file. -/
def skip (progress : Progress) (path : String) (cause : SkipCause) : Progress :=
  { progress with
    findings := progress.findings.skip path cause.reason
    events := progress.events ++ [.skipped path cause] }

/-- Adds the references of a file. -/
def add (progress : Progress) (file : SourceFile) (references : List Reference) : Progress :=
  let added := progress.findings.addReferences (some file.path) references
  { progress with
    findings := added.1
    events := progress.events ++ [.checked file added.2]
    scanned := progress.scanned + 1 }

end Progress

/-- Reads files one after the other.  An error ends the reading, except for a
file that does not parse where such files are to be left out. -/
def readFiles (files : FileSystem) (policy : ParseErrorPolicy) :
    List SourceFile → Progress → Progress × Option CheckError
  | [], progress => (progress, none)
  | file :: others, progress =>
      let (found, session) := readFile files progress.session file
      let progress := { progress with session }
      match found, policy with
      | .ok references, _ => readFiles files policy others (progress.add file references)
      | .error (.parse error), .skip =>
          readFiles files policy others (progress.skip file.path (.unparsable error))
      | .error error, _ => (progress, some error)

/-- What a walk over a tree finds by the rules of the tree. -/
def survey (config : Config) (files : FileSystem) (root : String) :
    Except ScanError Collection := do
  let rules ← IgnoreRules.load files root config.scan.effectiveIgnoreFiles
    config.scan.extraIgnore
  (Collector.ofConfig config.scan).collect files root rules

/-- Reads what has been collected and judges it. -/
def judge (config : Config) (files : FileSystem) (root : String) (environment : Environment)
    (durationMs : Nat) (collection : Collection) : List Event × Except CheckError CheckResult :=
  let cause := SkipCause.tooLarge config.scan.effectiveMaxFileSize
  let begun := Event.started root collection.files.length collection.ignored
  let start := collection.oversized.foldl (fun progress path => progress.skip path cause)
    ⟨{}, [begun], 0, .start⟩
  match readFiles files config.check.effectiveParseErrorPolicy collection.files start with
  | (progress, some error) => (progress.events, .error error)
  | (progress, none) =>
      let statistics : Statistics := {
        filesScanned := progress.scanned
        filesSkipped := progress.findings.skipped.length
        entriesIgnored := collection.ignored
        durationMs }
      let result := progress.findings.finish (some root) environment
        config.check.effectiveEmptyPolicy statistics
      let complete := Event.complete statistics.filesScanned statistics.filesSkipped
        result.found.length result.missing.length
      (progress.events ++ [complete], .ok result)

/-- Checks the tree at a root. -/
def run (config : Config) (files : FileSystem) (root : String) (environment : Environment)
    (durationMs : Nat) : CheckRun :=
  let passedOver := IgnoreRules.passedOver files root config.scan.effectiveIgnoreFiles
  match survey config files root with
  | .error error => ⟨passedOver, [], .error (.scan error)⟩
  | .ok collection =>
      let (events, outcome) := judge config files root environment durationMs collection
      ⟨passedOver, events, outcome⟩

/-- Checks a text that is in no file. -/
def source (text : String) (dialect : Dialect) (environment : Environment)
    (policy : EmptyValuePolicy) (durationMs : Nat) : Except ParseError CheckResult :=
  (references text dialect).map fun found =>
    (({} : Findings).addReferences none found).1.finish none environment policy
      { filesScanned := 1, durationMs }

end Check

end EnvAudit
