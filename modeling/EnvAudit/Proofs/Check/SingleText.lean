import EnvAudit.Proofs.Check.Policies

/-!
# One text, three ways to its names

The names in a text can be asked for directly, by a check of the text, or by the check of a
tree that has the text in its only source file.  All ways agree, in what they find and in
how they fail.
-/

namespace EnvAudit

namespace Findings

variable (file : Option String) (references : List Reference)

theorem firstSeen_single :
    (({} : Findings).addReferences file references).1.firstSeen =
      firstMentions (references.map (mention file)) :=
  firstSeen_addReferences {} file references

theorem consistent_single : (({} : Findings).addReferences file references).1.Consistent :=
  (Consistent.start []).addReferences file references

/-- The names of the findings in one text are the distinct names of its references. -/
theorem names_single :
    (({} : Findings).addReferences file references).1.names = distinctNames references := by
  have mentioned : (references.map (mention file)).map Prod.fst = references.map (·.name) := by
    rw [List.map_map]
    rfl
  rw [← (consistent_single file references).order, firstSeen_single, names_firstMentions,
    mentioned, distinctNames]

theorem lookup_map_mention (name : String) :
    (references.map (mention file)).lookup name =
      (references.find? fun reference => name == reference.name).map (locate file) := by
  induction references with
  | nil => rfl
  | cons first others ih =>
      rw [List.map_cons, mention, List.lookup_cons, List.find?_cons]
      by_cases same : name = first.name
      · simp [same]
      · have different : (name == first.name) = false := by simpa using same
        simp only [different]
        exact ih

/-- The place of a name in one text is that of the first reference to it. -/
theorem lookup_single (name : String) :
    (({} : Findings).addReferences file references).1.firstSeen.lookup name =
      (references.find? fun reference => name == reference.name).map (locate file) := by
  rw [firstSeen_single, lookup_firstMentions, lookup_map_mention]

end Findings

namespace Check

/-- A text is that of the only source file that a check of the tree reads, and the file's
extension is one of the dialect. -/
structure HoldsOnly (config : Config) (files : FileSystem) (root : String) (file : SourceFile)
    (text : String) (dialect : Dialect) : Prop where
  collected : ∃ collection, survey config files root = .ok collection ∧
    collection.files = [file]
  content : files.read file.path = .ok text.toUTF8
  extension : Dialect.ofPath? file.path = some dialect

variable {config : Config} {files : FileSystem} {root text : String} {file : SourceFile}
variable {dialect : Dialect} {environment : Environment} {policy : EmptyValuePolicy}
variable {durationMs : Nat} {found : List Reference} {error : ParseError}

namespace HoldsOnly

theorem dialect_eq (only : HoldsOnly config files root file text dialect) :
    file.dialect = dialect := by
  obtain ⟨collection, surveyed, single⟩ := only.collected
  obtain ⟨rules, _, _, _, _, walked⟩ := survey_eq_ok surveyed
  have member : file ∈ collection.files := by simp [single]
  have known := Collector.ofPath?_of_dialectFor?
    (Collector.dialectFor?_of_collect walked member)
  exact Option.some.inj (known.symm.trans only.extension)

theorem readSource_eq (only : HoldsOnly config files root file text dialect) :
    readSource files file.path = .ok text := by
  rw [readSource, only.content]
  simp only [Text.fromUTF8?_toUTF8]

/-- The file refers to what the text refers to, and an error is told of the file. -/
theorem referencesIn_eq (only : HoldsOnly config files root file text dialect) :
    referencesIn files file =
      (references text dialect).mapError fun error => .parse (error.atPath file.path) := by
  rw [referencesIn, only.readSource_eq, only.dialect_eq]

theorem outcome_of_error (only : HoldsOnly config files root file text dialect)
    (strict : config.check.effectiveParseErrorPolicy = .abort)
    (refused : references text dialect = .error error) :
    (run config files root environment durationMs).outcome =
      .error (.parse (error.atPath file.path)) := by
  obtain ⟨collection, surveyed, single⟩ := only.collected
  have known : referencesIn files file = .error (.parse (error.atPath file.path)) := by
    rw [only.referencesIn_eq, refused]
    rfl
  have halts : Halts files config.check.effectiveParseErrorPolicy collection.files
      (.parse (error.atPath file.path)) :=
    ⟨[], file, [], single, by simp, .unparsed known strict⟩
  exact outcome_eq_error_iff.mpr (.inr ⟨collection, surveyed, halts⟩)

/-- The result tells of the file what the findings in the text are. -/
theorem outcome_of_ok (only : HoldsOnly config files root file text dialect)
    (accepted : references text dialect = .ok found) (environment : Environment)
    (durationMs : Nat) :
    ∃ result, (run config files root environment durationMs).outcome = .ok result ∧
      result.firstSeen = (({} : Findings).addReferences (some file.path) found).1.firstSeen ∧
      result.found = result.firstSeen.map Prod.fst ∧
      result.missing = result.found.filter fun name =>
        !environment.isSet name config.check.effectiveEmptyPolicy := by
  obtain ⟨collection, surveyed, single⟩ := only.collected
  have known : referencesIn files file = .ok found := by
    rw [only.referencesIn_eq, accepted]
    rfl
  have pass : ∀ other ∈ collection.files,
      Passes files config.check.effectiveParseErrorPolicy other := by
    rw [single]
    intro other member
    obtain rfl := List.mem_singleton.mp member
    exact .parsed known
  have mentioned : mentions files collection.files =
      found.map (Findings.mention (some file.path)) := by
    rw [single, mentions, List.flatMap_singleton, mentionsIn_of_ok known]
  refine ⟨_, outcome_eq_ok_iff.mpr ⟨collection, surveyed, pass, rfl⟩, ?_, placed_verdict.symm, rfl⟩
  rw [Findings.firstSeen_single, ← mentioned]
  rfl

end HoldsOnly

theorem source_of_error (refused : references text dialect = .error error) :
    source text dialect environment policy durationMs = .error error := by
  rw [source, refused]
  rfl

theorem source_of_ok (accepted : references text dialect = .ok found)
    (environment : Environment) (policy : EmptyValuePolicy) (durationMs : Nat) :
    ∃ result, source text dialect environment policy durationMs = .ok result ∧
      result.firstSeen = (({} : Findings).addReferences none found).1.firstSeen ∧
      result.found = result.firstSeen.map Prod.fst ∧
      result.missing = result.found.filter fun name => !environment.isSet name policy := by
  rw [source, accepted]
  exact ⟨_, rfl, rfl, (Findings.consistent_single none found).order.symm, rfl⟩

theorem found_of_firstSeen {result : CheckResult} {origin : Option String}
    (seen : result.firstSeen = (({} : Findings).addReferences origin found).1.firstSeen)
    (named : result.found = result.firstSeen.map Prod.fst) :
    result.found = distinctNames found := by
  rw [named, seen, (Findings.consistent_single origin found).order, Findings.names_single]

/-- The names of a text are what a check of it finds; if it has none because it does not parse,
the check fails with the same error. -/
theorem referencedNames_eq_map_found (text : String) (dialect : Dialect)
    (environment : Environment) (policy : EmptyValuePolicy) (durationMs : Nat) :
    referencedNames text dialect =
      (source text dialect environment policy durationMs).map (·.found) := by
  rw [referencedNames]
  cases read : references text dialect with
  | error error =>
      rw [source_of_error read]
      rfl
  | ok found =>
      obtain ⟨result, checked, seen, named, _⟩ :=
        source_of_ok read environment policy durationMs
      rw [checked]
      exact congrArg Except.ok (found_of_firstSeen seen named).symm

end Check

/-- A result tells of a file what another one tells of a text that is in no file. -/
structure CheckResult.SameInFile (path : String) (result whole : CheckResult) : Prop where
  found : whole.found = result.found
  missing : whole.missing = result.missing
  isComplete : whole.isComplete = result.isComplete
  /-- Each name is seen first at the same line and column. -/
  firstSeen : ∀ name, ∃ place : Option (Nat × Nat),
    result.firstSeen? name = place.map (fun (line, column) => ⟨none, line, column⟩) ∧
    whole.firstSeen? name = place.map fun (line, column) => ⟨some path, line, column⟩

namespace Check.HoldsOnly

variable {config : Config} {files : FileSystem} {root text : String} {file : SourceFile}
variable {dialect : Dialect} {environment : Environment} {policy : EmptyValuePolicy}
variable {durationMs treeDurationMs : Nat} {failure : CheckError} {result : CheckResult}

theorem fails_iff (only : HoldsOnly config files root file text dialect)
    (strict : config.check.effectiveParseErrorPolicy = .abort) :
    (run config files root environment treeDurationMs).outcome = .error failure ↔
      ∃ error, source text dialect environment policy durationMs = .error error ∧
        failure = .parse (error.atPath file.path) := by
  cases read : references text dialect with
  | error error =>
      rw [only.outcome_of_error strict read, source_of_error read]
      constructor
      · rintro ⟨⟩
        exact ⟨error, rfl, rfl⟩
      · rintro ⟨_, ⟨⟩, rfl⟩
        rfl
  | ok found =>
      obtain ⟨whole, ran, _⟩ := only.outcome_of_ok read environment treeDurationMs
      obtain ⟨result, checked, _⟩ := source_of_ok read environment policy durationMs
      rw [ran, checked]
      simp

theorem sameInFile (only : HoldsOnly config files root file text dialect)
    (samePolicy : config.check.effectiveEmptyPolicy = policy)
    (checked : source text dialect environment policy durationMs = .ok result) :
    ∃ whole, (run config files root environment treeDurationMs).outcome = .ok whole ∧
      result.SameInFile file.path whole := by
  cases read : references text dialect with
  | error error => cases checked.symm.trans (source_of_error read)
  | ok found =>
      obtain ⟨whole, ran, wholeSeen, wholeNames, wholeMissing⟩ :=
        only.outcome_of_ok read environment treeDurationMs
      obtain ⟨again, checkedAgain, seen, names, missing⟩ :=
        source_of_ok read environment policy durationMs
      cases checked.symm.trans checkedAgain
      have sameFound : whole.found = result.found :=
        (found_of_firstSeen wholeSeen wholeNames).trans (found_of_firstSeen seen names).symm
      have sameMissing : whole.missing = result.missing := by
        rw [wholeMissing, missing, sameFound, samePolicy]
      refine ⟨whole, ran, sameFound, sameMissing, ?_, ?_⟩
      · rw [CheckResult.isComplete, CheckResult.isComplete, sameMissing]
      -- Both are seen where the first reference to the name is.
      · intro name
        refine ⟨(found.find? fun reference => name == reference.name).map fun reference =>
          (reference.line, reference.column), ?_, ?_⟩
        · rw [CheckResult.firstSeen?, seen, Findings.lookup_single, Option.map_map]
          rfl
        · rw [CheckResult.firstSeen?, wholeSeen, Findings.lookup_single, Option.map_map]
          rfl

end Check.HoldsOnly

/-- The names of a text are those that a check of the text finds, and those that a check finds
in a tree with the text in its only source file, at the same lines and columns.  One of the
three fails only if all do, with the same error but for the path of the file. -/
theorem ways_to_names_agree (text : String) (dialect : Dialect) (environment : Environment)
    (policy : EmptyValuePolicy) (durationMs : Nat) :
    (Session.start.referencedNames text dialect).1 = referencedNames text dialect ∧
    (∀ error, referencedNames text dialect = .error error ↔
      Check.source text dialect environment policy durationMs = .error error) ∧
    (∀ names, referencedNames text dialect = .ok names ↔
      ∃ result, Check.source text dialect environment policy durationMs = .ok result ∧
        result.found = names) ∧
    ∀ config files root file treeDurationMs,
      Check.HoldsOnly config files root file text dialect →
      config.check.effectiveParseErrorPolicy = .abort →
      config.check.effectiveEmptyPolicy = policy →
      (∀ failure,
        (Check.run config files root environment treeDurationMs).outcome = .error failure ↔
          ∃ error, Check.source text dialect environment policy durationMs = .error error ∧
            failure = .parse (error.atPath file.path)) ∧
      ∀ result, Check.source text dialect environment policy durationMs = .ok result →
        ∃ whole, (Check.run config files root environment treeDurationMs).outcome = .ok whole ∧
          result.SameInFile file.path whole := by
  have fresh : (Session.start.referencedNames text dialect).1 = referencedNames text dialect := by
    obtain ⟨after, read, _⟩ := Session.faithful_start.references text dialect
    rw [Session.referencedNames, read]
    rfl
  have named := Check.referencedNames_eq_map_found text dialect environment policy durationMs
  refine ⟨fresh, ?_, ?_, ?_⟩
  · intro error
    rw [named]
    cases Check.source text dialect environment policy durationMs <;> simp [Except.map]
  · intro names
    rw [named]
    cases Check.source text dialect environment policy durationMs <;> simp [Except.map]
  · intro config files root file treeDurationMs only strict samePolicy
    exact ⟨fun failure => only.fails_iff strict, fun result => only.sameInFile samePolicy⟩

namespace ScriptTree

/-- A text with a repeated name. -/
def loneText : String := "process.env.B; process.env.A; process.env.B;"

/-- One script. -/
def lone : ScriptTree where
  name := "app"
  scripts := [("main.js", loneText)]

theorem lone_plain : lone.Plain := by
  decide +kernel

def loneSource : SourceFile := lone.sourceOf ("main.js", loneText)

theorem holdsOnly_lone :
    Check.HoldsOnly {} lone.files "/app" loneSource loneText .plainScript where
  collected := ⟨_, lone_plain.surveyed rfl, rfl⟩
  content := lone_plain.read_source List.mem_cons_self
  extension := by decide +kernel

end ScriptTree

theorem ways_to_names_agree_lone :
    Check.HoldsOnly {} ScriptTree.lone.files "/app" ScriptTree.loneSource ScriptTree.loneText
        .plainScript ∧
      ∀ result, Check.source ScriptTree.loneText .plainScript .empty .missing 0 = .ok result →
        ∃ whole, (Check.run {} ScriptTree.lone.files "/app" .empty 1).outcome = .ok whole ∧
          result.SameInFile "/app/main.js" whole := by
  have only := ScriptTree.holdsOnly_lone
  obtain ⟨_, _, _, agree⟩ :=
    ways_to_names_agree ScriptTree.loneText .plainScript .empty .missing 0
  exact ⟨only, (agree {} ScriptTree.lone.files "/app" ScriptTree.loneSource 1 only rfl rfl).2⟩

end EnvAudit
