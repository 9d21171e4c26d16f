import EnvAudit.Environment
import EnvAudit.Reference

/-!
# Findings

The references of the files of a check are gathered into findings: the names
with the place of the first reference to each, and the files left out.  Judged
by an environment, they are the result of the check.
-/

namespace EnvAudit

/-- A place in a file, or in a text that is in no file. -/
structure Location where
  file : Option String
  line : Nat
  column : Nat
  deriving BEq, DecidableEq, Repr, Inhabited

/-- A location as it is shown to people. -/
def Location.describe (location : Location) : String :=
  match location.file with
  | some file => s!"{file}:{location.line}:{location.column}"
  | none => s!"{location.line}:{location.column}"

/-- A file that was left out, and why. -/
structure SkippedFile where
  path : String
  reason : String
  deriving BEq, DecidableEq, Repr, Inhabited

/-- Numbers about a check. -/
structure Statistics where
  filesScanned : Nat := 0
  filesSkipped : Nat := 0
  entriesIgnored : Nat := 0
  durationMs : Nat := 0
  deriving BEq, DecidableEq, Repr, Inhabited

/-- What a check has found. -/
structure CheckResult where
  /-- The directory that was scanned, if one was. -/
  root : Option String
  /-- The names referred to, in order of first appearance. -/
  found : List String
  /-- Those of the names that do not count as set. -/
  missing : List String
  /-- The place of the first reference to each name, in the order of `found`. -/
  firstSeen : List (String × Location)
  skipped : List SkippedFile
  statistics : Statistics
  deriving BEq, DecidableEq, Repr, Inhabited

namespace CheckResult

/-- Nothing is missing. -/
def isComplete (result : CheckResult) : Bool :=
  result.missing.isEmpty

/-- The place of the first reference to a name. -/
def firstSeen? (result : CheckResult) (name : String) : Option Location :=
  result.firstSeen.lookup name

end CheckResult

/-- What has been gathered so far.  The names and the places are kept apart. -/
structure Findings where
  /-- The names referred to, in order of first appearance. -/
  names : List String := []
  /-- The places of first references, found by name. -/
  firstSeen : List (String × Location) := []
  /-- The files left out, in order. -/
  skipped : List SkippedFile := []
  deriving BEq, DecidableEq, Repr, Inhabited

namespace Findings

/-- The place of a reference in the given file. -/
def locate (file : Option String) (reference : Reference) : Location :=
  ⟨file, reference.line, reference.column⟩

/-- Puts down the place of a name, instead of any that it has. -/
def place (seen : List (String × Location)) (name : String) (location : Location) :
    List (String × Location) :=
  seen.filter (fun entry => entry.1 != name) ++ [(name, location)]

/-- Adds a reference, unless its name has a place. -/
def addReference (findings : Findings) (file : Option String) (reference : Reference) : Findings :=
  match findings.firstSeen.lookup reference.name with
  | some _ => findings
  | none => { findings with
      names := findings.names ++ [reference.name]
      firstSeen := place findings.firstSeen reference.name (locate file reference) }

/-- Adds a reference in a file where some names have come up before, and notes its
name.  A name that has come up before adds nothing. -/
def mergeReference (file : Option String) (state : List String × Findings)
    (reference : Reference) : List String × Findings :=
  if state.1.contains reference.name then
    state
  else
    (reference.name :: state.1, state.2.addReference file reference)

/-- Adds the references of a file, and tells the number of different names in them. -/
def addReferences (findings : Findings) (file : Option String) (references : List Reference) :
    Findings × Nat :=
  let merged := references.foldl (mergeReference file) ([], findings)
  (merged.2, merged.1.length)

/-- Records a file that is left out. -/
def skip (findings : Findings) (path reason : String) : Findings :=
  { findings with skipped := findings.skipped ++ [⟨path, reason⟩] }

/-- The findings judged by an environment. -/
def finish (findings : Findings) (root : Option String) (environment : Environment)
    (policy : EmptyValuePolicy) (statistics : Statistics) : CheckResult where
  root := root
  found := findings.names
  missing := findings.names.filter fun name => !environment.isSet name policy
  firstSeen := findings.firstSeen
  skipped := findings.skipped
  statistics := statistics

end Findings

end EnvAudit
