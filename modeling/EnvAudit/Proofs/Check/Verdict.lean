import EnvAudit.Proofs.Check.Reading

/-!
# Verdicts of checks

A check succeeds if the tree can be surveyed and it fails at none of the files
collected.  Its result is then the verdict on what they mention.
-/

namespace EnvAudit

namespace Check

/-- The files that a check leaves out: the large ones, then those that do not parse. -/
def leftOut (config : Config) (files : FileSystem) (collection : Collection) :
    List SkippedFile :=
  let cause := SkipCause.tooLarge config.scan.effectiveMaxFileSize
  collection.oversized.map (fun path => ⟨path, cause.reason⟩) ++
    collection.files.filterMap (leftOut? files)

/-- What a check makes of a collection when it fails at none of the files. -/
def verdict (config : Config) (files : FileSystem) (root : String) (environment : Environment)
    (durationMs : Nat) (collection : Collection) : CheckResult :=
  let findings : Findings := {
    names := ((mentions files collection.files).map Prod.fst).eraseDups
    firstSeen := Findings.firstMentions (mentions files collection.files)
    skipped := leftOut config files collection }
  findings.finish (some root) environment config.check.effectiveEmptyPolicy {
    filesScanned := collection.files.countP (parses files)
    filesSkipped := (leftOut config files collection).length
    entriesIgnored := collection.ignored
    durationMs }

/-- What is known before the first source file is read: the large ones are left out. -/
def beginning (config : Config) (root : String) (collection : Collection) : Progress :=
  let cause := SkipCause.tooLarge config.scan.effectiveMaxFileSize
  { findings := { skipped := collection.oversized.map fun path => ⟨path, cause.reason⟩ }
    events := .started root collection.files.length collection.ignored ::
      collection.oversized.map fun path => .skipped path cause
    scanned := 0
    session := .start }

/-- Files that are left out change only the record of these and the events. -/
theorem foldl_skip (cause : SkipCause) (paths : List String) (progress : Progress) :
    paths.foldl (fun progress path => progress.skip path cause) progress =
      { progress with
        findings := { progress.findings with
          skipped := progress.findings.skipped ++ paths.map fun path => ⟨path, cause.reason⟩ }
        events := progress.events ++ paths.map fun path => .skipped path cause } := by
  induction paths generalizing progress with
  | nil => simp
  | cons path others ih =>
      rw [List.foldl_cons, ih (progress.skip path cause)]
      simp [Progress.skip, Findings.skip]

variable {config : Config} {files : FileSystem} {root : String} {environment : Environment}
variable {durationMs : Nat} {collection : Collection} {result : CheckResult}
variable {progress : Progress}

theorem found_verdict :
    (verdict config files root environment durationMs collection).found =
      ((mentions files collection.files).map Prod.fst).eraseDups :=
  rfl

theorem placed_verdict :
    (verdict config files root environment durationMs collection).firstSeen.map Prod.fst =
      (verdict config files root environment durationMs collection).found :=
  Findings.names_firstMentions _

theorem firstSeen_verdict (name : String) :
    (verdict config files root environment durationMs collection).firstSeen? name =
      (mentions files collection.files).lookup name :=
  Findings.lookup_firstMentions _ name

theorem missing_verdict :
    (verdict config files root environment durationMs collection).missing =
      (verdict config files root environment durationMs collection).found.filter
        fun name => !environment.isSet name config.check.effectiveEmptyPolicy :=
  rfl

theorem judge_of_error {error : CheckError}
    (reads : readFiles files config.check.effectiveParseErrorPolicy collection.files
      (beginning config root collection) = (progress, some error)) :
    judge config files root environment durationMs collection =
      (progress.events, .error error) := by
  simp only [judge, foldl_skip]
  rw [beginning] at reads
  simp only [List.nil_append, List.singleton_append, reads]

theorem judge_of_ok
    (reads : readFiles files config.check.effectiveParseErrorPolicy collection.files
      (beginning config root collection) = (progress, none)) :
    let result := progress.findings.finish (some root) environment
      config.check.effectiveEmptyPolicy {
        filesScanned := progress.scanned
        filesSkipped := progress.findings.skipped.length
        entriesIgnored := collection.ignored
        durationMs }
    judge config files root environment durationMs collection =
      (progress.events ++ [.complete result.statistics.filesScanned
        result.statistics.filesSkipped result.found.length result.missing.length],
        .ok result) := by
  simp only [judge, foldl_skip]
  rw [beginning] at reads
  simp only [List.nil_append, List.singleton_append, reads]
  rfl

/-- A check that fails at none of the files of a collection ends with the verdict. -/
theorem judge_of_pass
    (pass : ∀ file ∈ collection.files,
      Passes files config.check.effectiveParseErrorPolicy file) :
    ∃ after, Passage files collection.files (beginning config root collection) after ∧
      let whole := verdict config files root environment durationMs collection
      judge config files root environment durationMs collection =
        (after.events ++ [.complete whole.statistics.filesScanned
          whole.statistics.filesSkipped whole.found.length whole.missing.length],
          .ok whole) := by
  obtain ⟨after, reads, passage⟩ := readFiles_ok (beginning config root collection)
    Session.faithful_start pass
  have rest := passage.reads
  have consistent := rest.consistent (.start _)
  have firstSeen : after.findings.firstSeen =
      Findings.firstMentions (mentions files collection.files) :=
    rest.firstSeen
  have findings : after.findings = ⟨((mentions files collection.files).map Prod.fst).eraseDups,
      Findings.firstMentions (mentions files collection.files),
      leftOut config files collection⟩ := by
    rw [Findings.mk.injEq, ← consistent.order, firstSeen, Findings.names_firstMentions,
      rest.skipped]
    exact ⟨rfl, rfl, rfl⟩
  have scanned : after.scanned = collection.files.countP (parses files) := by
    rw [rest.scanned, beginning, Nat.zero_add]
  refine ⟨after, passage, ?_⟩
  rw [judge_of_ok reads, findings, scanned]
  rfl

/-- A collection is judged if the check fails at none of the files. -/
theorem judge_eq_ok_iff :
    (judge config files root environment durationMs collection).2 = .ok result ↔
      (∀ file ∈ collection.files, Passes files config.check.effectiveParseErrorPolicy file) ∧
        result = verdict config files root environment durationMs collection := by
  have judged (pass : ∀ file ∈ collection.files,
      Passes files config.check.effectiveParseErrorPolicy file) :
      (judge config files root environment durationMs collection).2 =
        .ok (verdict config files root environment durationMs collection) := by
    obtain ⟨after, _, judged⟩ := judge_of_pass pass
    rw [judged]
  constructor
  · intro succeeds
    rcases reads : readFiles files config.check.effectiveParseErrorPolicy collection.files
      (beginning config root collection) with ⟨progress, none | error⟩
    · have pass := passes_of_readFiles Session.faithful_start reads
      cases succeeds.symm.trans (judged pass)
      exact ⟨pass, rfl⟩
    · rw [judge_of_error reads] at succeeds
      cases succeeds
  · rintro ⟨pass, rfl⟩
    exact judged pass

/-- A check succeeds if the tree can be surveyed and it fails at none of the files. -/
theorem outcome_eq_ok_iff :
    (run config files root environment durationMs).outcome = .ok result ↔
      ∃ collection, survey config files root = .ok collection ∧
        (∀ file ∈ collection.files,
          Passes files config.check.effectiveParseErrorPolicy file) ∧
        result = verdict config files root environment durationMs collection := by
  rw [run]
  cases surveyed : survey config files root with
  | error error => simp
  | ok collection =>
      simp only [Except.ok.injEq, exists_eq_left']
      exact judge_eq_ok_iff

end Check

end EnvAudit
