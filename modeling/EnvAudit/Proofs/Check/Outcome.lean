import EnvAudit.Proofs.Check.Verdict

/-!
# Outcomes of checks

A check that does not succeed fails while the tree is surveyed, or at the first file
that cannot be read or does not parse where it has to.  How long a check takes is told
by the result and changes nothing else.
-/

namespace EnvAudit

/-- The result of a check that took another time. -/
def CheckResult.lasting (durationMs : Nat) (result : CheckResult) : CheckResult :=
  { result with statistics := { result.statistics with durationMs } }

namespace Check

/-- A check fails at a source file. -/
inductive FailsAt (files : FileSystem) (policy : ParseErrorPolicy) (file : SourceFile) :
    CheckError → Prop
  | unread {error : ScanError} (known : referencesIn files file = .error (.scan error)) :
      FailsAt files policy file (.scan error)
  | unparsed {error : ParseError} (known : referencesIn files file = .error (.parse error))
      (strict : policy = .abort) : FailsAt files policy file (.parse error)

/-- A check fails at one of the source files and at none before it. -/
def Halts (files : FileSystem) (policy : ParseErrorPolicy) (sources : List SourceFile)
    (error : CheckError) : Prop :=
  ∃ before file behind, sources = before ++ file :: behind ∧
    (∀ earlier ∈ before, Passes files policy earlier) ∧ FailsAt files policy file error

variable {files : FileSystem} {policy : ParseErrorPolicy} {sources : List SourceFile}

theorem passes_or_fails (files : FileSystem) (policy : ParseErrorPolicy) (file : SourceFile) :
    Passes files policy file ∨ ∃ error, FailsAt files policy file error := by
  cases known : referencesIn files file with
  | ok references => exact .inl (.parsed known)
  | error error =>
      cases error with
      | scan error => exact .inr ⟨_, .unread known⟩
      | parse error =>
          cases policy with
          | abort => exact .inr ⟨_, .unparsed known rfl⟩
          | skip => exact .inl (.leftOut known rfl)
      | config error =>
          rw [referencesIn] at known
          split at known
          · cases known
          · cases parsed : references _ file.dialect <;> rw [parsed] at known <;> cases known

theorem pass_or_halts (files : FileSystem) (policy : ParseErrorPolicy)
    (sources : List SourceFile) :
    (∀ file ∈ sources, Passes files policy file) ∨ ∃ error, Halts files policy sources error := by
  induction sources with
  | nil => exact .inl (by simp)
  | cons file others ih =>
      rcases passes_or_fails files policy file with passes | ⟨error, fails⟩
      · rcases ih with pass | ⟨error, before, other, behind, rfl, pass, fails⟩
        · exact .inl (List.forall_mem_cons.mpr ⟨passes, pass⟩)
        · exact .inr ⟨error, file :: before, other, behind, rfl,
            List.forall_mem_cons.mpr ⟨passes, pass⟩, fails⟩
      · exact .inr ⟨error, [], file, others, rfl, by simp, fails⟩

/-- The reading of source files ends where the check fails. -/
theorem readFiles_of_fails {file : SourceFile} {error : CheckError}
    (fails : FailsAt files policy file error) (behind : List SourceFile) {progress : Progress}
    (faithful : progress.session.Faithful) :
    ∃ session, readFiles files policy (file :: behind) progress =
      ({ progress with session }, some error) := by
  obtain ⟨session, read, _⟩ := readFile_eq files faithful file
  refine ⟨session, ?_⟩
  rw [readFiles, read]
  cases fails with
  | unread known => simp only [known]
  | unparsed known strict => simp only [known, strict]

variable {config : Config} {root : String} {environment : Environment} {durationMs : Nat}
variable {collection : Collection} {error : CheckError}

/-- A check that fails at a file passes those before it, and tells of no more. -/
theorem judge_of_halts
    (halts : Halts files config.check.effectiveParseErrorPolicy collection.files error) :
    ∃ before file behind after, collection.files = before ++ file :: behind ∧
      FailsAt files config.check.effectiveParseErrorPolicy file error ∧
      Passage files before (beginning config root collection) after ∧
      judge config files root environment durationMs collection =
        (after.events, .error error) := by
  obtain ⟨before, file, behind, whole, pass, fails⟩ := halts
  obtain ⟨after, reads, passage, faithful⟩ := readFiles_append (file :: behind)
    (beginning config root collection) Session.faithful_start pass
  obtain ⟨session, ends⟩ := readFiles_of_fails fails behind faithful
  rw [← whole, ends] at reads
  refine ⟨before, file, behind, after, whole, fails, passage, ?_⟩
  rw [judge_of_error reads]

theorem judge_eq_error_iff :
    (judge config files root environment durationMs collection).2 = .error error ↔
      Halts files config.check.effectiveParseErrorPolicy collection.files error := by
  have judged {error : CheckError}
      (halts : Halts files config.check.effectiveParseErrorPolicy collection.files error) :
      (judge config files root environment durationMs collection).2 = .error error := by
    obtain ⟨_, _, _, _, _, _, _, judged⟩ := judge_of_halts halts
    rw [judged]
  constructor
  · intro fails
    rcases pass_or_halts files config.check.effectiveParseErrorPolicy collection.files with
      pass | ⟨other, halts⟩
    · cases fails.symm.trans (judge_eq_ok_iff.mpr ⟨pass, rfl⟩)
    · cases fails.symm.trans (judged halts)
      exact halts
  · exact judged

/-- A check fails if the tree cannot be surveyed or the check fails at one of the files. -/
theorem outcome_eq_error_iff :
    (run config files root environment durationMs).outcome = .error error ↔
      (∃ failure, survey config files root = .error failure ∧ error = .scan failure) ∨
        ∃ collection, survey config files root = .ok collection ∧
          Halts files config.check.effectiveParseErrorPolicy collection.files error := by
  rw [run]
  cases surveyed : survey config files root with
  | error failure => simp [eq_comm]
  | ok collection =>
      simp only [reduceCtorEq, false_and, exists_false, false_or, Except.ok.injEq,
        exists_eq_left']
      exact judge_eq_error_iff

/-- The time that a check takes has no part in its events, and none in its outcome except
that the result tells it. -/
theorem run_lasting (config : Config) (files : FileSystem) (root : String)
    (environment : Environment) (durationMs otherDurationMs : Nat) :
    run config files root environment otherDurationMs =
      { run config files root environment durationMs with
        outcome := (run config files root environment durationMs).outcome.map
          (·.lasting otherDurationMs) } := by
  rw [run, run]
  cases survey config files root with
  | error failure => rfl
  | ok collection =>
      simp only [judge]
      split <;> rfl

end Check

end EnvAudit
