import EnvAudit.Proofs.Check.Outcome
import Mathlib.Data.List.Basic

/-!
# What the environment decides

Neither the files that are read nor what is found in them depends on the environment.  It
decides which of the names are missing, and the more it sets, the fewer these are.
-/

namespace EnvAudit

/-- The settings with another way to count empty values. -/
def Config.counting (config : Config) (policy : EmptyValuePolicy) : Config :=
  { config with
    check := { config.check with emptyIsMissing := some (policy == .missing) } }

@[simp]
theorem Config.effectiveEmptyPolicy_counting (config : Config) (policy : EmptyValuePolicy) :
    (config.counting policy).check.effectiveEmptyPolicy = policy := by
  cases policy <;> rfl

namespace Environment

variable {environment extended : Environment} {names : List String} {name value : String}
variable {policy : EmptyValuePolicy}

theorem isSet_present_of_missing (set : environment.isSet name .missing) :
    environment.isSet name .present := by
  unfold isSet at set ⊢
  cases known : environment.get? name with
  | none => simp [known] at set
  | some value => rfl

theorem isSet_of_get? (known : environment.get? name = some value) (filled : value ≠ "")
    (policy : EmptyValuePolicy) : environment.isSet name policy := by
  cases policy with
  | missing => simp [isSet, known, filled]
  | present => simp [isSet, known]

/-- An environment keeps what another one has, and has values that are not empty for the
given names. -/
structure Supplies (names : List String) (environment extended : Environment) : Prop where
  kept : ∀ name value, name ∉ names → environment.get? name = some value →
    extended.get? name = some value
  supplied : ∀ name ∈ names, ∃ value, extended.get? name = some value ∧ value ≠ ""

theorem Supplies.isSet (supplies : Supplies names environment extended)
    (either : name ∈ names ∨ environment.isSet name policy) : extended.isSet name policy := by
  by_cases member : name ∈ names
  · obtain ⟨value, known, filled⟩ := supplies.supplied name member
    exact isSet_of_get? known filled policy
  · have set := either.resolve_left member
    cases known : environment.get? name with
    | none => simp [Environment.isSet, known] at set
    | some value =>
        have stillKnown := supplies.kept name value member known
        unfold Environment.isSet at set ⊢
        rw [known] at set
        rw [stillKnown]
        exact set

end Environment

namespace CheckResult

/-- The result with its names judged by another environment. -/
def judgedBy (environment : Environment) (policy : EmptyValuePolicy) (result : CheckResult) :
    CheckResult :=
  { result with missing := result.found.filter fun name => !environment.isSet name policy }

variable {first second environment extended : Environment}
variable {policy otherPolicy : EmptyValuePolicy} {result : CheckResult}

theorem mem_missing_judgedBy {name : String} :
    name ∈ (result.judgedBy environment policy).missing ↔
      name ∈ result.found ∧ environment.isSet name policy = false := by
  rw [judgedBy, List.mem_filter, Bool.not_eq_true']

/-- What sets more misses less. -/
theorem missing_judgedBy_sublist
    (covers : ∀ name, first.isSet name policy → second.isSet name otherPolicy) :
    (result.judgedBy second otherPolicy).missing.Sublist
      (result.judgedBy first policy).missing := by
  apply List.monotone_filter_right
  intro name unset
  rw [Bool.not_eq_true'] at unset ⊢
  by_contra set
  rw [covers name (Bool.not_eq_false _ ▸ set)] at unset
  cases unset

theorem isComplete_of_sublist {other : CheckResult}
    (fewer : other.missing.Sublist result.missing) (complete : result.isComplete) :
    other.isComplete := by
  rw [isComplete, List.isEmpty_iff] at complete ⊢
  rw [complete] at fewer
  exact List.sublist_nil.mp fewer

theorem judgedBy_of_agree
    (agree : ∀ name ∈ result.found, first.isSet name policy = second.isSet name otherPolicy) :
    result.judgedBy second otherPolicy = result.judgedBy first policy := by
  have sameMissing : (result.found.filter fun name => !second.isSet name otherPolicy) =
      result.found.filter fun name => !first.isSet name policy := by
    apply List.filter_congr
    intro name member
    rw [agree name member]
  rw [judgedBy, judgedBy, sameMissing]

theorem judgedBy_of_supplies
    (supplies : Environment.Supplies (result.judgedBy environment policy).missing environment
      extended) :
    result.judgedBy extended policy = { result.judgedBy environment policy with missing := [] } := by
  have nothing : (result.found.filter fun name => !extended.isSet name policy) = [] := by
    rw [List.filter_eq_nil_iff]
    intro name member unset
    have either : name ∈ (result.judgedBy environment policy).missing ∨
        environment.isSet name policy := by
      rw [mem_missing_judgedBy]
      cases environment.isSet name policy with
      | false => exact .inl ⟨member, rfl⟩
      | true => exact .inr rfl
    rw [supplies.isSet either] at unset
    cases unset
  rw [judgedBy, nothing]
  rfl

end CheckResult

/-- A check is judged last: what it finds is gathered without the environment, which then
judges the names. -/
def JudgedLast {ε : Type}
    (outcome : Environment → EmptyValuePolicy → Nat → Except ε CheckResult) : Prop :=
  ∃ gathered : Except ε CheckResult, ∀ environment policy durationMs,
    outcome environment policy durationMs =
      gathered.map fun result => (result.judgedBy environment policy).lasting durationMs

/-- The environment, with the way to count empty values, decides nothing about a check but
which of the names found are missing. -/
structure EnvironmentClassifies {ε : Type}
    (outcome : Environment → EmptyValuePolicy → Nat → Except ε CheckResult) : Prop where
  /-- A check that fails does so with the same error in any environment. -/
  fails_alike : ∀ first policy durationMs second otherPolicy otherDurationMs error,
    outcome first policy durationMs = .error error →
      outcome second otherPolicy otherDurationMs = .error error
  /-- A check that succeeds tells the same in any environment but for what is missing. -/
  succeeds_alike : ∀ first policy durationMs second otherPolicy otherDurationMs result,
    outcome first policy durationMs = .ok result → ∃ missing,
      outcome second otherPolicy otherDurationMs =
        .ok ({ result with missing }.lasting otherDurationMs)
  /-- Where more is set, less is missing. -/
  monotone : ∀ first policy durationMs second otherPolicy otherDurationMs result other,
    (∀ name, first.isSet name policy → second.isSet name otherPolicy) →
      outcome first policy durationMs = .ok result →
      outcome second otherPolicy otherDurationMs = .ok other →
      other.missing.Sublist result.missing ∧ (result.isComplete → other.isComplete)
  /-- Values for all that is missing change nothing else. -/
  supplied : ∀ environment extended policy durationMs otherDurationMs result,
    outcome environment policy durationMs = .ok result →
      Environment.Supplies result.missing environment extended →
      outcome extended policy otherDurationMs =
        .ok ({ result with missing := [] }.lasting otherDurationMs)
  lenient : ∀ environment durationMs otherDurationMs strict lenient,
    outcome environment .missing durationMs = .ok strict →
      outcome environment .present otherDurationMs = .ok lenient →
      lenient.missing.Sublist strict.missing
  /-- Only whether the names found are set matters. -/
  agreeing : ∀ first policy durationMs second otherPolicy otherDurationMs result,
    outcome first policy durationMs = .ok result →
      (∀ name ∈ result.found, first.isSet name policy = second.isSet name otherPolicy) →
      outcome second otherPolicy otherDurationMs = .ok (result.lasting otherDurationMs)

namespace JudgedLast

variable {ε : Type} {outcome : Environment → EmptyValuePolicy → Nat → Except ε CheckResult}

theorem environmentClassifies (judgedLast : JudgedLast outcome) :
    EnvironmentClassifies outcome := by
  obtain ⟨gathered, judged⟩ := judgedLast
  cases gathered with
  | error failure =>
      have fails (environment : Environment) (policy : EmptyValuePolicy) (durationMs : Nat) :
          outcome environment policy durationMs = .error failure :=
        judged environment policy durationMs
      constructor <;> simp [fails]
  | ok gathered =>
      have succeeds (environment : Environment) (policy : EmptyValuePolicy) (durationMs : Nat) :
          outcome environment policy durationMs =
            .ok ((gathered.judgedBy environment policy).lasting durationMs) :=
        judged environment policy durationMs
      have fewer {first second : Environment} {policy otherPolicy : EmptyValuePolicy}
          {durationMs otherDurationMs : Nat} {result other : CheckResult}
          (covers : ∀ name, first.isSet name policy → second.isSet name otherPolicy)
          (firstOk : outcome first policy durationMs = .ok result)
          (secondOk : outcome second otherPolicy otherDurationMs = .ok other) :
          other.missing.Sublist result.missing := by
        rw [succeeds] at firstOk secondOk
        cases firstOk
        cases secondOk
        exact CheckResult.missing_judgedBy_sublist covers
      constructor
      case fails_alike =>
        intro first policy durationMs second otherPolicy otherDurationMs error fails
        rw [succeeds] at fails
        cases fails
      case succeeds_alike =>
        intro first policy durationMs second otherPolicy otherDurationMs result firstOk
        rw [succeeds] at firstOk
        cases firstOk
        exact ⟨(gathered.judgedBy second otherPolicy).missing, succeeds _ _ _⟩
      case monotone =>
        intro first policy durationMs second otherPolicy otherDurationMs result other covers
          firstOk secondOk
        have sublist := fewer covers firstOk secondOk
        exact ⟨sublist, CheckResult.isComplete_of_sublist sublist⟩
      case supplied =>
        intro environment extended policy durationMs otherDurationMs result firstOk supplies
        rw [succeeds] at firstOk ⊢
        cases firstOk
        rw [CheckResult.judgedBy_of_supplies supplies]
        rfl
      case lenient =>
        intro environment durationMs otherDurationMs strict lenient
        exact fewer fun name => Environment.isSet_present_of_missing
      case agreeing =>
        intro first policy durationMs second otherPolicy otherDurationMs result firstOk agree
        rw [succeeds] at firstOk ⊢
        cases firstOk
        have same : gathered.judgedBy second otherPolicy = gathered.judgedBy first policy :=
          CheckResult.judgedBy_of_agree agree
        rw [same]
        rfl

end JudgedLast

namespace Check

theorem judgedLast_run (config : Config) (files : FileSystem) (root : String) :
    JudgedLast fun environment policy durationMs =>
      (run (config.counting policy) files root environment durationMs).outcome := by
  -- Any environment will do to gather what is found.
  refine ⟨(run config files root .empty 0).outcome, ?_⟩
  intro environment policy durationMs
  have sameSurvey : survey (config.counting policy) files root = survey config files root := rfl
  have samePolicy : (config.counting policy).check.effectiveParseErrorPolicy =
      config.check.effectiveParseErrorPolicy := rfl
  have sameScan : (config.counting policy).scan = config.scan := rfl
  simp only [run, sameSurvey]
  cases survey config files root with
  | error failure => rfl
  | ok collection =>
      simp only [judge, samePolicy, sameScan, Config.effectiveEmptyPolicy_counting]
      split <;> rfl

theorem judgedLast_source (text : String) (dialect : Dialect) :
    JudgedLast (source text dialect) := by
  refine ⟨source text dialect .empty .missing 0, ?_⟩
  intro environment policy durationMs
  unfold source
  cases references text dialect with
  | error error => rfl
  | ok found => rfl

/-- Settings say no more about empty values than which way to count them is in effect. -/
theorem run_counting_effective (config : Config) (files : FileSystem) (root : String) :
    run (config.counting config.check.effectiveEmptyPolicy) files root =
      run config files root := by
  funext environment durationMs
  have sameSurvey : survey (config.counting config.check.effectiveEmptyPolicy) files root =
      survey config files root := rfl
  have sameScan : (config.counting config.check.effectiveEmptyPolicy).scan = config.scan := rfl
  simp only [run, sameSurvey, sameScan]
  cases survey config files root with
  | error failure => rfl
  | ok collection =>
      have samePolicy : (config.counting
          config.check.effectiveEmptyPolicy).check.effectiveParseErrorPolicy =
            config.check.effectiveParseErrorPolicy := rfl
      simp only [judge, samePolicy, sameScan, Config.effectiveEmptyPolicy_counting]

end Check

/-- The environment, and the way to count empty values, decide nothing about the check of a
tree or of a text but which names are missing: the fewer, the more is set. -/
theorem check_classified_by_environment (config : Config) (files : FileSystem) (root : String) :
    (EnvironmentClassifies fun environment policy durationMs =>
      (Check.run (config.counting policy) files root environment durationMs).outcome) ∧
    Check.run (config.counting config.check.effectiveEmptyPolicy) files root =
      Check.run config files root ∧
    ∀ text dialect, EnvironmentClassifies (Check.source text dialect) :=
  ⟨(Check.judgedLast_run config files root).environmentClassifies,
    Check.run_counting_effective config files root,
    fun text dialect => (Check.judgedLast_source text dialect).environmentClassifies⟩

end EnvAudit
