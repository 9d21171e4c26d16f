import EnvAudit.Check
import EnvAudit.Proofs.Findings
import EnvAudit.Proofs.Session

/-!
# Reading of files

A session keeps the automata of the dialects it has met, so what is found in a
file depends on that file only.  The files that a check reads one after the other
are therefore judged file by file: each is added with its references, or left out, or
ends the check.
-/

namespace EnvAudit

namespace Check

/-- The references in a source file that is read on its own. -/
def referencesIn (files : FileSystem) (file : SourceFile) : Except CheckError (List Reference) :=
  match readSource files file.path with
  | .error error => .error (.scan error)
  | .ok text =>
      (references text file.dialect).mapError fun error => .parse (error.atPath file.path)

/-- The mentions in a source file, if it can be read and parses in its dialect. -/
def mentionsIn (files : FileSystem) (file : SourceFile) : List (String × Location) :=
  match referencesIn files file with
  | .ok references => references.map (Findings.mention (some file.path))
  | .error _ => []

/-- The mentions in source files, in order. -/
def mentions (files : FileSystem) (sources : List SourceFile) : List (String × Location) :=
  sources.flatMap (mentionsIn files)

/-- A source file can be read, parses in its dialect, and refers to the name. -/
def RefersTo (files : FileSystem) (file : SourceFile) (name : String) : Prop :=
  ∃ references, referencesIn files file = .ok references ∧
    ∃ reference ∈ references, reference.name = name

/-- The record of a source file that does not parse. -/
def leftOut? (files : FileSystem) (file : SourceFile) : Option SkippedFile :=
  match referencesIn files file with
  | .error (.parse error) => some ⟨file.path, (SkipCause.unparsable error).reason⟩
  | _ => none

/-- The source file can be read and parses in its dialect. -/
def parses (files : FileSystem) (file : SourceFile) : Bool :=
  (referencesIn files file).isOk

/-- A check does not fail at a source file. -/
inductive Passes (files : FileSystem) (policy : ParseErrorPolicy) (file : SourceFile) : Prop
  | parsed {references : List Reference} (known : referencesIn files file = .ok references)
  | leftOut {error : ParseError} (known : referencesIn files file = .error (.parse error))
      (lenient : policy = .skip)

section Known

variable {files : FileSystem} {file : SourceFile}

theorem mentionsIn_of_ok {references : List Reference}
    (known : referencesIn files file = .ok references) :
    mentionsIn files file = references.map (Findings.mention (some file.path)) := by
  rw [mentionsIn, known]

theorem mentionsIn_of_error {error : CheckError} (known : referencesIn files file = .error error) :
    mentionsIn files file = [] := by
  rw [mentionsIn, known]

theorem parses_of_ok {references : List Reference}
    (known : referencesIn files file = .ok references) : parses files file = true := by
  rw [parses, known]
  rfl

theorem parses_of_error {error : CheckError} (known : referencesIn files file = .error error) :
    parses files file = false := by
  rw [parses, known]
  rfl

theorem leftOut?_of_ok {references : List Reference}
    (known : referencesIn files file = .ok references) : leftOut? files file = none := by
  rw [leftOut?, known]

theorem leftOut?_of_unparsable {error : ParseError}
    (known : referencesIn files file = .error (.parse error)) :
    leftOut? files file = some ⟨file.path, (SkipCause.unparsable error).reason⟩ := by
  rw [leftOut?, known]

end Known

theorem mem_names_mentionsIn_iff {files : FileSystem} {file : SourceFile} {name : String} :
    name ∈ (mentionsIn files file).map Prod.fst ↔ RefersTo files file name := by
  rw [mentionsIn, RefersTo]
  cases referencesIn files file with
  | error error => simp
  | ok references => simp [Findings.mention]

/-- The names that are mentioned are those that the source files refer to. -/
theorem mem_names_mentions_iff {files : FileSystem} {sources : List SourceFile} {name : String} :
    name ∈ (mentions files sources).map Prod.fst ↔ ∃ file ∈ sources, RefersTo files file name := by
  rw [mentions, List.map_flatMap, List.mem_flatMap]
  exact exists_congr fun file => and_congr_right fun _ => mem_names_mentionsIn_iff

/-- In a faithful session a file is read as it is on its own. -/
theorem readFile_eq (files : FileSystem) {session : Session} (faithful : session.Faithful)
    (file : SourceFile) :
    ∃ after, readFile files session file = (referencesIn files file, after) ∧
      after.Faithful := by
  rw [readFile, referencesIn]
  cases readSource files file.path with
  | error error => exact ⟨session, rfl, faithful⟩
  | ok text =>
      obtain ⟨after, found, faithfulAfter⟩ := faithful.references text file.dialect
      exact ⟨after, by simp only [found], faithfulAfter⟩

/-- What the reading of source files adds to what is known. -/
structure Reads (files : FileSystem) (sources : List SourceFile) (before after : Progress) :
    Prop where
  firstSeen : after.findings.firstSeen =
    (mentions files sources).foldl Findings.remember before.findings.firstSeen
  consistent : before.findings.Consistent → after.findings.Consistent
  skipped : after.findings.skipped =
    before.findings.skipped ++ sources.filterMap (leftOut? files)
  scanned : after.scanned = before.scanned + sources.countP (parses files)

namespace Reads

variable {files : FileSystem} {file : SourceFile} {others : List SourceFile}
variable {before after : Progress}

theorem nil (files : FileSystem) (progress : Progress) : Reads files [] progress progress where
  firstSeen := rfl
  consistent := id
  skipped := by simp
  scanned := rfl

theorem cons_parsed {references : List Reference} {session : Session}
    (known : referencesIn files file = .ok references)
    (rest : Reads files others ({ before with session }.add file references) after) :
    Reads files (file :: others) before after where
  firstSeen := by
    rw [rest.firstSeen, mentions, mentions, List.flatMap_cons, List.foldl_append,
      mentionsIn_of_ok known, Progress.add, Findings.firstSeen_addReferences]
  consistent := fun consistent =>
    rest.consistent (consistent.addReferences (some file.path) references)
  skipped := by
    rw [rest.skipped, List.filterMap_cons_none (leftOut?_of_ok known), Progress.add,
      Findings.skipped_addReferences]
  scanned := by
    rw [rest.scanned, List.countP_cons_of_pos (parses_of_ok known), Nat.add_comm _ 1,
      ← Nat.add_assoc]
    rfl

theorem cons_leftOut {error : ParseError} {session : Session}
    (known : referencesIn files file = .error (.parse error))
    (rest : Reads files others
      ({ before with session }.skip file.path (.unparsable error)) after) :
    Reads files (file :: others) before after where
  firstSeen := by
    rw [rest.firstSeen, mentions, mentions, List.flatMap_cons, mentionsIn_of_error known,
      List.nil_append]
    rfl
  consistent := fun consistent => rest.consistent (consistent.skip file.path _)
  skipped := by
    rw [rest.skipped, List.filterMap_cons_some (leftOut?_of_unparsable known)]
    simp [Progress.skip, Findings.skip]
  scanned := by
    have unparsed : ¬ parses files file = true := by simp [parses_of_error known]
    rw [rest.scanned, List.countP_cons_of_neg unparsed]
    rfl

end Reads

/-- The check passes source files one after the other, with what is known before and after. -/
inductive Passage (files : FileSystem) : List SourceFile → Progress → Progress → Prop
  | nil (progress : Progress) : Passage files [] progress progress
  | parsed {file : SourceFile} {others : List SourceFile} {before after : Progress}
      {references : List Reference} {session : Session}
      (known : referencesIn files file = .ok references)
      (rest : Passage files others ({ before with session }.add file references) after) :
      Passage files (file :: others) before after
  | leftOut {file : SourceFile} {others : List SourceFile} {before after : Progress}
      {error : ParseError} {session : Session}
      (known : referencesIn files file = .error (.parse error))
      (rest : Passage files others
        ({ before with session }.skip file.path (.unparsable error)) after) :
      Passage files (file :: others) before after

theorem Passage.reads {files : FileSystem} {sources : List SourceFile} {before after : Progress}
    (passage : Passage files sources before after) : Reads files sources before after := by
  induction passage with
  | nil progress => exact .nil files progress
  | parsed known _ rest => exact .cons_parsed known rest
  | leftOut known _ rest => exact .cons_leftOut known rest

/-- The reading of source files goes on behind those where the check does not fail. -/
theorem readFiles_append {files : FileSystem} {policy : ParseErrorPolicy}
    {sources : List SourceFile} (behind : List SourceFile) (progress : Progress)
    (faithful : progress.session.Faithful) (pass : ∀ file ∈ sources, Passes files policy file) :
    ∃ after, readFiles files policy (sources ++ behind) progress =
        readFiles files policy behind after ∧
      Passage files sources progress after ∧ after.session.Faithful := by
  induction sources generalizing progress with
  | nil => exact ⟨progress, rfl, .nil progress, faithful⟩
  | cons file others ih =>
      obtain ⟨passes, passOthers⟩ := List.forall_mem_cons.mp pass
      obtain ⟨session, read, faithfulAfter⟩ := readFile_eq files faithful file
      rw [List.cons_append, readFiles, read]
      cases passes with
      | @parsed references known =>
          obtain ⟨after, reads, rest, faithfulRest⟩ :=
            ih ({ progress with session }.add file references) faithfulAfter passOthers
          refine ⟨after, ?_, .parsed known rest, faithfulRest⟩
          simpa only [known] using reads
      | @leftOut error known lenient =>
          obtain ⟨after, reads, rest, faithfulRest⟩ :=
            ih ({ progress with session }.skip file.path (.unparsable error)) faithfulAfter
              passOthers
          refine ⟨after, ?_, .leftOut known rest, faithfulRest⟩
          simpa only [known, lenient] using reads

/-- The reading of source files succeeds if the check fails at none of them. -/
theorem readFiles_ok {files : FileSystem} {policy : ParseErrorPolicy} {sources : List SourceFile}
    (progress : Progress) (faithful : progress.session.Faithful)
    (pass : ∀ file ∈ sources, Passes files policy file) :
    ∃ after, readFiles files policy sources progress = (after, none) ∧
      Passage files sources progress after := by
  obtain ⟨after, reads, passage, _⟩ := readFiles_append [] progress faithful pass
  rw [List.append_nil] at reads
  exact ⟨after, reads, passage⟩

/-- Where the reading of source files succeeds, the check fails at none of them. -/
theorem passes_of_readFiles {files : FileSystem} {policy : ParseErrorPolicy}
    {sources : List SourceFile} {progress after : Progress}
    (faithful : progress.session.Faithful)
    (reads : readFiles files policy sources progress = (after, none)) :
    ∀ file ∈ sources, Passes files policy file := by
  induction sources generalizing progress with
  | nil => simp
  | cons file others ih =>
      obtain ⟨session, read, faithfulAfter⟩ := readFile_eq files faithful file
      rw [readFiles, read] at reads
      simp only at reads
      rw [List.forall_mem_cons]
      split at reads
      · rename_i references _ known
        exact ⟨.parsed known, ih faithfulAfter reads⟩
      · rename_i error known
        exact ⟨.leftOut known rfl, ih faithfulAfter reads⟩
      · cases reads

end Check

end EnvAudit
