import EnvAudit.Proofs.Check.Meaning
import EnvAudit.Proofs.Walk.Order

/-!
# Checks in different orders

The orders in which directories list their entries decide which of several mentions of
a name comes first, and nothing else that matters: neither whether a check succeeds, nor
what it finds, misses and leaves out.
-/

namespace EnvAudit

variable {files others : FileSystem}

/-- The rules of a tree depend on no order. -/
theorem IgnoreRules.load_reordered (same : files.Reordered others) (proper : files.Proper) :
    IgnoreRules.load files = IgnoreRules.load others := by
  have contents : readFile? files = readFile? others := by
    funext path
    rw [readFile?, readFile?, same.isFile proper, same.read proper]
  have added : addFile files = addFile others := by
    funext rules name
    rw [addFile, addFile, contents]
  funext root names patterns
  rw [load, load, added]

namespace Check

/-- What a file refers to depends on no order. -/
theorem referencesIn_reordered (same : files.Reordered others) (proper : files.Proper) :
    referencesIn files = referencesIn others := by
  funext file
  rw [referencesIn, referencesIn, readSource, readSource, same.read proper]

theorem passes_reordered (same : files.Reordered others) (proper : files.Proper)
    {policy : ParseErrorPolicy} {file : SourceFile} (passes : Passes files policy file) :
    Passes others policy file := by
  cases passes with
  | parsed known => exact .parsed (referencesIn_reordered same proper ▸ known)
  | leftOut known lenient => exact .leftOut (referencesIn_reordered same proper ▸ known) lenient

/-- The verdict on a collection depends on no listing. -/
theorem verdict_reordered (same : files.Reordered others) (proper : files.Proper)
    (config : Config) : verdict config files = verdict config others := by
  have mentioned : mentionsIn files = mentionsIn others := by
    funext file
    rw [mentionsIn, mentionsIn, referencesIn_reordered same proper]
  have recorded : leftOut? files = leftOut? others := by
    funext file
    rw [leftOut?, leftOut?, referencesIn_reordered same proper]
  have parsed : parses files = parses others := by
    funext file
    rw [parses, parses, referencesIn_reordered same proper]
  funext root environment durationMs collection
  simp only [verdict, leftOut, mentions, mentioned, recorded, parsed]

theorem survey_reordered (same : files.Reordered others) (proper : files.Proper)
    {config : Config} {root : String} {collection : Collection}
    (surveyed : survey config files root = .ok collection) :
    ∃ otherCollection, survey config others root = .ok otherCollection ∧
      collection.Reordered otherCollection := by
  obtain ⟨rules, loaded, collected⟩ := bind_eq_ok_iff.mp surveyed
  obtain ⟨otherCollection, otherCollected, collections⟩ :=
    Collector.collect_reordered same proper collected
  rw [IgnoreRules.load_reordered same proper] at loaded
  exact ⟨otherCollection, bind_eq_ok_iff.mpr ⟨rules, loaded, otherCollected⟩, collections⟩

theorem refersTo_iff_lookup {file : SourceFile} {name : String} :
    RefersTo files file name ↔ ((mentionsIn files file).lookup name).isSome := by
  rw [← mem_names_mentionsIn_iff, Findings.mem_names_iff_lookup]

/-- The place of a name that no other file refers to is that of the first reference in the
one file. -/
theorem lookup_mentions {sources : List SourceFile} {file : SourceFile} {name : String}
    (only : ∀ other ∈ sources, RefersTo files other name → other = file)
    (known : file ∈ sources ∨ ¬ RefersTo files file name) :
    (mentions files sources).lookup name = (mentionsIn files file).lookup name := by
  have unmentioned {other : SourceFile} (refers : ¬ RefersTo files other name) :
      (mentionsIn files other).lookup name = none := by
    rw [refersTo_iff_lookup] at refers
    exact Option.not_isSome_iff_eq_none.mp refers
  -- Either the file is still to come, or it does not refer to the name at all.
  induction sources with
  | nil =>
      rw [unmentioned (known.resolve_left List.not_mem_nil)]
      rfl
  | cons first rest ih =>
      rw [mentions, List.flatMap_cons, List.lookup_append]
      by_cases refers : RefersTo files first name
      · obtain rfl := only first List.mem_cons_self refers
        obtain ⟨location, found⟩ := Option.isSome_iff_exists.mp (refersTo_iff_lookup.mp refers)
        rw [found, Option.some_or]
      · rw [unmentioned refers, Option.none_or]
        apply ih fun other member => only other (List.mem_cons_of_mem _ member)
        rcases known with member | unknown
        · rcases List.mem_cons.mp member with rfl | further
          · exact .inr refers
          · exact .inl further
        · exact .inr unknown

/-- The place of a name that at most one file refers to depends on no order. -/
theorem lookup_mentions_perm {sources otherSources : List SourceFile}
    (order : sources.Perm otherSources) {name : String}
    (only : ∀ first ∈ sources, ∀ second ∈ sources, RefersTo files first name →
      RefersTo files second name → first = second) :
    (mentions files sources).lookup name = (mentions files otherSources).lookup name := by
  by_cases referred : ∃ file ∈ sources, RefersTo files file name
  · obtain ⟨file, member, refers⟩ := referred
    have onlyFile (other : SourceFile) (otherMember : other ∈ sources)
        (otherRefers : RefersTo files other name) : other = file :=
      only other otherMember file member otherRefers refers
    rw [lookup_mentions onlyFile (.inl member),
      lookup_mentions (fun other otherMember => onlyFile other (order.mem_iff.mpr otherMember))
        (.inl (order.mem_iff.mp member))]
  · have otherReferred : ¬ ∃ file ∈ otherSources, RefersTo files file name := by
      rintro ⟨file, member, refers⟩
      exact referred ⟨file, order.mem_iff.mpr member, refers⟩
    rw [← mem_names_mentions_iff, Findings.mem_names_iff_lookup,
      Option.not_isSome_iff_eq_none] at referred otherReferred
    rw [referred, otherReferred]

variable {config : Config} {root : String} {environment : Environment}
variable {durationMs otherDurationMs : Nat} {collection otherCollection : Collection}

theorem found_reordered (collections : collection.Reordered otherCollection) (name : String) :
    name ∈ (verdict config files root environment durationMs collection).found ↔
      name ∈ (verdict config files root environment otherDurationMs otherCollection).found := by
  rw [found_verdict, found_verdict, List.mem_eraseDups, List.mem_eraseDups,
    mem_names_mentions_iff, mem_names_mentions_iff]
  simp only [collections.files.mem_iff]

theorem missing_reordered (collections : collection.Reordered otherCollection) (name : String) :
    name ∈ (verdict config files root environment durationMs collection).missing ↔
      name ∈ (verdict config files root environment otherDurationMs otherCollection).missing := by
  rw [missing_verdict, missing_verdict, List.mem_filter, List.mem_filter,
    found_reordered collections]

theorem isComplete_reordered (collections : collection.Reordered otherCollection) :
    (verdict config files root environment durationMs collection).isComplete =
      (verdict config files root environment otherDurationMs otherCollection).isComplete := by
  rw [Bool.eq_iff_iff, CheckResult.isComplete, CheckResult.isComplete, List.isEmpty_iff,
    List.isEmpty_iff, List.eq_nil_iff_forall_not_mem, List.eq_nil_iff_forall_not_mem]
  exact forall_congr' fun name => not_congr (missing_reordered collections name)

/-- The files left out are the same in any order. -/
theorem leftOut_reordered (collections : collection.Reordered otherCollection) :
    (leftOut config files collection).Perm (leftOut config files otherCollection) :=
  (collections.oversized.map _).append (collections.files.filterMap _)

theorem outcome_reordered (same : files.Reordered others) (proper : files.Proper)
    (succeeds : ∃ result, (run config files root environment durationMs).outcome = .ok result) :
    ∃ result, (run config others root environment otherDurationMs).outcome = .ok result := by
  obtain ⟨result, succeeds⟩ := succeeds
  obtain ⟨collection, surveyed, pass, _⟩ := outcome_eq_ok_iff.mp succeeds
  obtain ⟨otherCollection, otherSurveyed, collections⟩ := survey_reordered same proper surveyed
  refine ⟨_, outcome_eq_ok_iff.mpr ⟨otherCollection, otherSurveyed, ?_, rfl⟩⟩
  intro file member
  exact passes_reordered same proper (pass file (collections.files.mem_iff.mpr member))

end Check

/-- The orders in which directories list their entries do not decide whether a check
succeeds, nor what it finds, misses and leaves out, nor where it sees a name that one
file only refers to. -/
theorem check_reordered {files others : FileSystem} (same : files.Reordered others)
    (proper : files.Proper) (config : Config) (root : String) (environment : Environment)
    (durationMs otherDurationMs : Nat) :
    ((∃ result, (Check.run config files root environment durationMs).outcome = .ok result) ↔
      ∃ result, (Check.run config others root environment otherDurationMs).outcome =
        .ok result) ∧
    ∀ result otherResult,
      (Check.run config files root environment durationMs).outcome = .ok result →
      (Check.run config others root environment otherDurationMs).outcome = .ok otherResult →
      (∀ name, name ∈ result.found ↔ name ∈ otherResult.found) ∧
      (∀ name, name ∈ result.missing ↔ name ∈ otherResult.missing) ∧
      result.isComplete = otherResult.isComplete ∧
      result.skipped.Perm otherResult.skipped ∧
      result.statistics.filesScanned = otherResult.statistics.filesScanned ∧
      result.statistics.filesSkipped = otherResult.statistics.filesSkipped ∧
      result.statistics.entriesIgnored = otherResult.statistics.entriesIgnored ∧
      ∀ collection, Check.survey config files root = .ok collection → ∀ name,
        (∀ first ∈ collection.files, ∀ second ∈ collection.files,
          Check.RefersTo files first name → Check.RefersTo files second name →
          first = second) →
        result.firstSeen? name = otherResult.firstSeen? name := by
  refine ⟨⟨Check.outcome_reordered same proper,
    Check.outcome_reordered same.symm (same.proper proper)⟩, ?_⟩
  intro result otherResult succeeds otherSucceeds
  obtain ⟨collection, surveyed, _, rfl⟩ := Check.outcome_eq_ok_iff.mp succeeds
  obtain ⟨otherCollection, otherSurveyed, _, rfl⟩ := Check.outcome_eq_ok_iff.mp otherSucceeds
  obtain ⟨again, surveyedAgain, collections⟩ := Check.survey_reordered same proper surveyed
  cases otherSurveyed.symm.trans surveyedAgain
  rw [← Check.verdict_reordered same proper config]
  have leftOut : (Check.leftOut config files collection).Perm
      (Check.leftOut config files otherCollection) :=
    Check.leftOut_reordered collections
  refine ⟨Check.found_reordered collections, Check.missing_reordered collections,
    Check.isComplete_reordered collections, leftOut, collections.files.countP_eq _,
    leftOut.length_eq, collections.ignored, ?_⟩
  intro again surveyedAgain name only
  cases surveyed.symm.trans surveyedAgain
  rw [Check.firstSeen_verdict, Check.firstSeen_verdict]
  exact Check.lookup_mentions_perm collections.files only

/-- The sample tree with the entries of its directory in the opposite order. -/
def SampleTree.reversed : FileSystem where
  root := ⟨true, [("app", .directory true app.entries.reverse)]⟩
  workingDirectory := "/"

theorem SampleTree.reordered : SampleTree.files.Reordered SampleTree.reversed := by
  have inside : Relisted app.entries app.entries.reverse := .of_perm (List.reverse_perm _).symm
  have root : Relisted SampleTree.files.root.entries SampleTree.reversed.root.entries :=
    @Relisted.of_levels _ _ SampleTree.reversed.root.entries
      (.cons ⟨rfl, .directory true inside⟩ .nil) (.refl _)
  exact ⟨⟨rfl, root⟩, rfl⟩

theorem check_reordered_sample :
    SampleTree.files.Reordered SampleTree.reversed ∧ SampleTree.files.Proper ∧
      ((∃ result, (Check.run {} SampleTree.files "/app" .empty 0).outcome = .ok result) ↔
        ∃ result, (Check.run {} SampleTree.reversed "/app" .empty 1).outcome = .ok result) :=
  ⟨SampleTree.reordered, SampleTree.proper,
    (check_reordered SampleTree.reordered SampleTree.proper {} "/app" .empty 0 1).1⟩

end EnvAudit
