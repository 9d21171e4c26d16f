import EnvAudit.Findings
import EnvAudit.Report.Json

/-!
# Reports

The result of a check is shown to people as lines of text, and to programs as a
JSON object.
-/

namespace EnvAudit

/-- For whom a report is. -/
inductive ReportFormat where
  | human
  | json
  deriving BEq, DecidableEq, Repr, Inhabited

namespace Report

/-- The line about a name that is missing. -/
def missingLine (result : CheckResult) (name : String) : String :=
  match result.firstSeen? name with
  | some location => s!"  - {name} (first used at {location.describe})"
  | none => s!"  - {name}"

/-- The lines about the names. -/
def nameLines (result : CheckResult) : List String :=
  if result.isComplete then
    [s!"All environment variables are properly set ({result.found.length} referenced)."]
  else
    s!"Missing environment variables ({result.missing.length}):" ::
      result.missing.map (missingLine result)

/-- The lines about files that were left out. -/
def skippedLines (result : CheckResult) : List String :=
  if result.skipped.isEmpty then
    []
  else
    s!"Skipped {result.skipped.length} file(s):" ::
      result.skipped.map fun file => s!"  - {file.path}: {file.reason}"

/-- The report for people. -/
def human (result : CheckResult) : String :=
  String.join ((nameLines result ++ skippedLines result).map (· ++ "\n"))

def ofLocation (location : Location) : Json :=
  .object ((location.file.toList.map fun file => ("file", Json.text file)) ++
    [("line", .natural location.line), ("column", .natural location.column)])

/-- The places of the first references in the order of names. -/
def sortedPlaces (result : CheckResult) : List (String × Location) :=
  result.firstSeen.mergeSort fun first second => decide (first.1 ≤ second.1)

def ofSkipped (file : SkippedFile) : Json :=
  .object [("path", .text file.path), ("reason", .text file.reason)]

def ofStatistics (statistics : Statistics) : Json :=
  .object [
    ("filesScanned", .natural statistics.filesScanned),
    ("filesSkipped", .natural statistics.filesSkipped),
    ("entriesIgnored", .natural statistics.entriesIgnored),
    ("durationMs", .natural statistics.durationMs)]

/-- The result as a JSON object. -/
def ofResult (result : CheckResult) : Json :=
  .object ((result.root.toList.map fun root => ("root", Json.text root)) ++ [
    ("found", .list (result.found.map .text)),
    ("missing", .list (result.missing.map .text)),
    ("isComplete", .boolean result.isComplete),
    ("firstSeen", .object ((sortedPlaces result).map fun (name, location) =>
      (name, ofLocation location)))] ++
    (if result.skipped.isEmpty then
      []
    else
      [("skipped", .list (result.skipped.map ofSkipped))]) ++
    [("stats", ofStatistics result.statistics)])

/-- The report for programs. -/
def json (result : CheckResult) : String :=
  (ofResult result).pretty ++ "\n"

/-- The names of the fields that hold paths. -/
def pathFields : List String := ["root", "file", "path"]

/-- The field holds a path that is no text. -/
def isGarbled (isText : String → Bool) (name : String) : Json → Bool
  | .text path => pathFields.contains name && !isText path
  | _ => false

/-- What has been written of the report for programs when the first path comes up that is no
text, if one does. -/
def begunJson? (isText : String → Bool) (result : CheckResult) : Option String :=
  (Json.begun? (isGarbled isText) 0 (ofResult result)).map .ofList

end Report

end EnvAudit
