import EnvAudit.Proofs.Check.ScriptTree
import EnvAudit.Proofs.Walk.Selection

/-!
# What a check finds

The result of a check tells of what the files of the survey mention, and of
nothing else: each name once, in the order of the first mentions, with the place of
the first mention, and apart those that the environment does not set.
-/

namespace EnvAudit

namespace Check

/-- A survey collects by the rules of the tree, from the directory at its root. -/
theorem survey_eq_ok {config : Config} {files : FileSystem} {root : String}
    {collection : Collection} (surveyed : survey config files root = .ok collection) :
    ∃ rules place links,
      IgnoreRules.load files root config.scan.effectiveIgnoreFiles config.scan.extraIgnore =
        .ok rules ∧
      files.locate root = .ok (.directory place, links) ∧
      (Collector.ofConfig config.scan).collect files root rules = .ok collection := by
  obtain ⟨rules, loaded, collected⟩ := bind_eq_ok_iff.mp surveyed
  have located : ∃ place links, files.locate root = .ok (.directory place, links) := by
    rw [Collector.collect] at collected
    split at collected
    · contradiction
    · contradiction
    · rename_i place links located
      exact ⟨place, links, located⟩
  obtain ⟨place, links, located⟩ := located
  exact ⟨rules, place, links, loaded, located, collected⟩

/-- Mentions are the references in the files that parse, each with its file. -/
theorem mem_mentions_iff {files : FileSystem} {sources : List SourceFile} {name : String}
    {location : Location} :
    (name, location) ∈ mentions files sources ↔
      ∃ file ∈ sources, ∃ references, referencesIn files file = .ok references ∧
        ∃ reference ∈ references, reference.name = name ∧
          location = ⟨some file.path, reference.line, reference.column⟩ := by
  rw [mentions, List.mem_flatMap]
  constructor
  · rintro ⟨file, inSources, mentioned⟩
    rw [mentionsIn] at mentioned
    split at mentioned
    · rename_i references known
      obtain ⟨reference, inFile, same⟩ := List.mem_map.mp mentioned
      obtain ⟨rfl, rfl⟩ := Prod.mk.inj same
      exact ⟨file, inSources, references, known, reference, inFile, rfl, rfl⟩
    · simp at mentioned
  · rintro ⟨file, inSources, references, known, reference, inFile, rfl, rfl⟩
    refine ⟨file, inSources, ?_⟩
    rw [mentionsIn_of_ok known]
    exact List.mem_map_of_mem inFile

/-- A file that parses is not left out: no other file has its path. -/
theorem not_leftOut {config : Config} {files : FileSystem} {collection : Collection}
    (distinct : (collection.files.map SourceFile.path ++ collection.oversized).Nodup)
    {file : SourceFile} (member : file ∈ collection.files) {references : List Reference}
    (known : referencesIn files file = .ok references) :
    file.path ∉ (leftOut config files collection).map SkippedFile.path := by
  obtain ⟨filesDistinct, _, apart⟩ := List.nodup_append.mp distinct
  intro recorded
  rw [leftOut, List.map_append, List.mem_append] at recorded
  rcases recorded with large | unparsable
  · have inOversized : file.path ∈ collection.oversized := by simpa using large
    exact apart _ (List.mem_map_of_mem member) _ inOversized rfl
  · obtain ⟨record, inRecords, samePath⟩ := List.mem_map.mp unparsable
    obtain ⟨other, otherMember, recorded⟩ := List.mem_filterMap.mp inRecords
    rw [leftOut?] at recorded
    split at recorded
    · rename_i error unparsed
      cases recorded
      have same : other = file := List.inj_on_of_nodup_map filesDistinct otherMember member samePath
      rw [same, known] at unparsed
      contradiction
    · contradiction

end Check

/-- A check that succeeds finds the names that the files of the survey mention, each at its
first mention, and misses those that the environment does not set.  Each place is in a
file that is selected, small enough, parses and is not left out. -/
theorem check_meaning {config : Config} {files : FileSystem} {root : String}
    {environment : Environment} {durationMs : Nat} {result : CheckResult}
    (succeeds : (Check.run config files root environment durationMs).outcome = .ok result) :
    ∃ rules place links collection,
      IgnoreRules.load files root config.scan.effectiveIgnoreFiles config.scan.extraIgnore =
        .ok rules ∧
      files.locate root = .ok (.directory place, links) ∧
      (Collector.ofConfig config.scan).collect files root rules = .ok collection ∧
      result.found = ((Check.mentions files collection.files).map Prod.fst).eraseDups ∧
      (∀ name, result.firstSeen? name = (Check.mentions files collection.files).lookup name) ∧
      (∀ name, (result.firstSeen? name).isSome ↔ name ∈ result.found) ∧
      result.missing = result.found.filter
        (fun name => !environment.isSet name config.check.effectiveEmptyPolicy) ∧
      (result.isComplete ↔ result.missing = []) ∧
      (files.Proper → ∀ name location, result.firstSeen? name = some location →
        ∃ file ∈ collection.files, location.file = some file.path ∧
          Selected config.scan files rules links place root file.path file.size ∧
          file.size ≤ config.scan.effectiveMaxFileSize ∧
          Check.parses files file ∧
          file.path ∉ result.skipped.map SkippedFile.path) := by
  obtain ⟨collection, surveyed, _, rfl⟩ := Check.outcome_eq_ok_iff.mp succeeds
  obtain ⟨rules, place, links, loaded, located, collected⟩ := Check.survey_eq_ok surveyed
  refine ⟨rules, place, links, collection, loaded, located, collected, Check.found_verdict,
    Check.firstSeen_verdict, ?_, Check.missing_verdict, List.isEmpty_iff, ?_⟩
  · intro name
    rw [Check.firstSeen_verdict, Check.found_verdict, List.mem_eraseDups,
      Findings.mem_names_iff_lookup]
  · intro proper name location seen
    rw [Check.firstSeen_verdict] at seen
    obtain ⟨before, behind, whole, _⟩ := List.lookup_eq_some_iff.mp seen
    have mentioned : (name, location) ∈ Check.mentions files collection.files := by simp [whole]
    obtain ⟨file, member, references, known, reference, _, _, rfl⟩ :=
      Check.mem_mentions_iff.mp mentioned
    obtain ⟨log, isLog⟩ := Collector.collect_log proper located collected
    have placeProper := proper.locate located
    obtain ⟨selected, small, _⟩ := (isLog.mem_files_iff proper placeProper).mp member
    exact ⟨file, member, rfl, selected, small, Check.parses_of_ok known,
      Check.not_leftOut (isLog.sources_nodup proper placeProper) member known⟩

theorem check_meaning_pair : ∃ result,
    (Check.run ScriptTree.lenient ScriptTree.pair.files "/app" .empty 0).outcome = .ok result ∧
      result.found =
        ((Check.mentions ScriptTree.pair.files ScriptTree.pair.sources).map Prod.fst).eraseDups ∧
      (∀ name, result.firstSeen? name =
        (Check.mentions ScriptTree.pair.files ScriptTree.pair.sources).lookup name) ∧
      result.missing = result.found := by
  have succeeds := ScriptTree.pair_succeeds .empty 0
  obtain ⟨rules, place, links, collection, loaded, located, collected, found, firstSeen, _,
    missing, _⟩ := check_meaning succeeds
  have surveyed : Check.survey ScriptTree.lenient ScriptTree.pair.files "/app" = .ok collection :=
    bind_eq_ok_iff.mpr ⟨rules, loaded, collected⟩
  cases (ScriptTree.pair_plain.surveyed rfl).symm.trans surveyed
  refine ⟨_, succeeds, found, firstSeen, missing.trans (List.filter_eq_self.mpr ?_)⟩
  intro name _
  rfl

end EnvAudit
