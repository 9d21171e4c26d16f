import EnvAudit.Proofs.Check.Meaning
import EnvAudit.Proofs.Check.Outcome

/-!
# Files that do not parse

A check can fail at the first file that does not parse, or leave such files out.  Both
ways agree: they differ just where a file does not parse, and there the one fails with
what the other records.
-/

namespace EnvAudit

/-- The settings with another way to handle files that do not parse. -/
def Config.handling (config : Config) (policy : ParseErrorPolicy) : Config :=
  { config with check := { config.check with onParseError := some policy } }

theorem references_error {text : String} {dialect : Dialect} {error : ParseError}
    (refused : references text dialect = .error error) :
    ∃ line column, error = .invalidSource ParseError.inlineSource line column := by
  rw [references, referencesWith, parseWith] at refused
  split at refused
  · rename_i point defect
    cases refused
    exact ⟨point.row + 1, point.column + 1, rfl⟩
  · cases refused

namespace Check

/-- The records of the source files that are too large. -/
def tooLarge (config : Config) (collection : Collection) : List SkippedFile :=
  collection.oversized.map fun path =>
    ⟨path, (SkipCause.tooLarge config.scan.effectiveMaxFileSize).reason⟩

variable {config : Config} {files : FileSystem} {root : String} {environment : Environment}
variable {durationMs otherDurationMs : Nat} {collection : Collection} {result : CheckResult}
variable {file : SourceFile} {error : ParseError}

theorem leftOut_eq (config : Config) (files : FileSystem) (collection : Collection) :
    leftOut config files collection =
      tooLarge config collection ++ collection.files.filterMap (leftOut? files) :=
  rfl

/-- The error about a file that does not parse names the file and a place in it. -/
theorem referencesIn_unparsable (known : referencesIn files file = .error (.parse error)) :
    ∃ line column, error = .invalidSource file.path line column := by
  rw [referencesIn] at known
  split at known
  · cases known
  · rename_i text read
    cases refused : references text file.dialect with
    | ok found =>
        rw [refused] at known
        cases known
    | error cause =>
        obtain ⟨line, column, rfl⟩ := references_error refused
        rw [refused] at known
        cases known
        exact ⟨line, column, rfl⟩

theorem path_ne_inlineSource (surveyed : survey config files root = .ok collection)
    (member : file ∈ collection.files) : file.path ≠ ParseError.inlineSource := by
  obtain ⟨rules, _, _, _, _, collected⟩ := survey_eq_ok surveyed
  obtain ⟨extension, known, _⟩ := Collector.dialectFor?_eq_some_iff.mp
    (Collector.dialectFor?_of_collect collected member)
  rintro same
  have none : Path.extension? ParseError.inlineSource = none := by decide
  rw [same, none] at known
  cases known

theorem head?_message (path : String) (line column : Nat) :
    (ParseError.invalidSource path line column).message.toList.head? = some 'S' := by
  have whole : (ParseError.invalidSource path line column).message =
      s!"Syntax error in {path} at {line}:{column}" := rfl
  simp only [whole, String.toList_append, List.head?_append]
  rfl

theorem head?_reason (limit : Nat) : (SkipCause.tooLarge limit).reason.toList.head? = some 'l' := by
  have whole : (SkipCause.tooLarge limit).reason =
      s!"larger than max_file_size ({limit} bytes)" := rfl
  simp only [whole, String.toList_append, List.head?_append]
  rfl

theorem record_not_tooLarge (path : String) (line column : Nat) :
    ⟨path, (ParseError.invalidSource path line column).message⟩ ∉ tooLarge config collection := by
  intro recorded
  obtain ⟨_, _, same⟩ := List.mem_map.mp recorded
  -- The one reason begins with a capital letter, the other with a small one.
  have letters := congrArg (fun record => record.reason.toList.head?) same
  rw [head?_message, head?_reason] at letters
  exact absurd letters (by decide)

theorem parses_of_passes_abort (passes : Passes files .abort file) : parses files file = true := by
  cases passes with
  | parsed known => exact parses_of_ok known
  | leftOut known lenient => cases lenient

theorem passes_of_parses (policy : ParseErrorPolicy) (parsed : parses files file = true) :
    Passes files policy file := by
  cases known : referencesIn files file with
  | ok references => exact .parsed known
  | error error =>
      rw [parses_of_error known] at parsed
      cases parsed

theorem leftOut?_of_parses (parsed : parses files file = true) : leftOut? files file = none := by
  cases passes_of_parses .abort parsed with
  | parsed known => exact leftOut?_of_ok known
  | leftOut known lenient => cases lenient

theorem filterMap_leftOut?_of_parses {sources : List SourceFile}
    (parsed : ∀ file ∈ sources, parses files file = true) :
    sources.filterMap (leftOut? files) = [] :=
  List.filterMap_eq_nil_iff.mpr fun file member => leftOut?_of_parses (parsed file member)

theorem mentions_filter_parses (files : FileSystem) (sources : List SourceFile) :
    mentions files (sources.filter (parses files)) = mentions files sources := by
  induction sources with
  | nil => rfl
  | cons file others ih =>
      rw [mentions, mentions] at ih
      rw [List.filter_cons]
      split
      · rw [mentions, mentions, List.flatMap_cons, List.flatMap_cons, ih]
      · rename_i unparsed
        have nothing : mentionsIn files file = [] := by
          cases known : referencesIn files file with
          | ok references => exact absurd (parses_of_ok known) unparsed
          | error error => exact mentionsIn_of_error known
        rw [mentions, mentions, List.flatMap_cons, nothing, List.nil_append, ih]

/-- A file is the first of the source files that does not parse, because of a fault at the given
place. -/
def IsFirstUnparsable (files : FileSystem) (sources : List SourceFile) (file : SourceFile)
    (line column : Nat) : Prop :=
  ∃ before behind, sources = before ++ file :: behind ∧
    (∀ earlier ∈ before, parses files earlier = true) ∧
    referencesIn files file = .error (.parse (.invalidSource file.path line column))

namespace IsFirstUnparsable

variable {sources : List SourceFile} {line column : Nat}

theorem mem (first : IsFirstUnparsable files sources file line column) : file ∈ sources := by
  obtain ⟨before, behind, rfl, _⟩ := first
  simp

theorem halts (first : IsFirstUnparsable files sources file line column) :
    Halts files .abort sources (.parse (.invalidSource file.path line column)) := by
  obtain ⟨before, behind, whole, parsed, known⟩ := first
  exact ⟨before, file, behind, whole,
    fun earlier member => passes_of_parses _ (parsed earlier member), .unparsed known rfl⟩

/-- The first record of a file that does not parse is about the first such file. -/
theorem filterMap_leftOut? (first : IsFirstUnparsable files sources file line column) :
    ∃ others, sources.filterMap (leftOut? files) =
      ⟨file.path, (ParseError.invalidSource file.path line column).message⟩ :: others := by
  obtain ⟨before, behind, rfl, parsed, known⟩ := first
  refine ⟨behind.filterMap (leftOut? files), ?_⟩
  rw [List.filterMap_append, filterMap_leftOut?_of_parses parsed, List.nil_append,
    List.filterMap_cons_some (leftOut?_of_unparsable known)]
  rfl

end IsFirstUnparsable

/-- Where a check fails at no file if it may leave files out, either all files parse or there is
a first one that does not. -/
theorem parse_or_first_unparsable {sources : List SourceFile}
    (pass : ∀ file ∈ sources, Passes files .skip file) :
    (∀ file ∈ sources, parses files file = true) ∨
      ∃ file line column, IsFirstUnparsable files sources file line column := by
  rcases pass_or_halts files .abort sources with
    strict | ⟨error, before, file, behind, whole, strict, fails⟩
  · exact .inl fun file member => parses_of_passes_abort (strict file member)
  · -- The file where the stricter check fails passes the other, so it has been read.
    cases fails with
    | unread known =>
        cases pass file (by simp [whole]) with
        | parsed again => cases known.symm.trans again
        | leftOut again _ => cases known.symm.trans again
    | unparsed known _ =>
        obtain ⟨line, column, rfl⟩ := referencesIn_unparsable known
        exact .inr ⟨file, line, column, before, behind, whole,
          fun earlier member => parses_of_passes_abort (strict earlier member), known⟩

/-- What succeeds without leaving files out gives the same result where they may be. -/
theorem outcome_skip_of_abort
    (succeeds : (run (config.handling .abort) files root environment durationMs).outcome =
      .ok result) :
    (run (config.handling .skip) files root environment otherDurationMs).outcome =
      .ok (result.lasting otherDurationMs) := by
  obtain ⟨collection, surveyed, pass, rfl⟩ := outcome_eq_ok_iff.mp succeeds
  refine outcome_eq_ok_iff.mpr ⟨collection, surveyed, ?_, rfl⟩
  intro file member
  exact passes_of_parses _ (parses_of_passes_abort (pass file member))

theorem parse_of_tooLarge (pass : ∀ file ∈ collection.files, Passes files .skip file)
    (large : ∀ record ∈ leftOut config files collection, record ∈ tooLarge config collection) :
    ∀ file ∈ collection.files, parses files file = true := by
  rcases parse_or_first_unparsable pass with parsed | ⟨file, line, column, first⟩
  · exact parsed
  · obtain ⟨others, records⟩ := first.filterMap_leftOut?
    refine absurd (large _ ?_) (record_not_tooLarge file.path line column)
    rw [leftOut_eq, records]
    exact List.mem_append_right _ List.mem_cons_self

theorem first_unparsable_of_leftOut
    (pass : ∀ file ∈ collection.files, Passes files .skip file)
    (another : ∃ record ∈ leftOut config files collection,
      record ∉ tooLarge config collection) :
    ∃ file line column, IsFirstUnparsable files collection.files file line column := by
  rcases parse_or_first_unparsable pass with parsed | first
  · obtain ⟨record, recorded, other⟩ := another
    rw [leftOut_eq, filterMap_leftOut?_of_parses parsed, List.append_nil] at recorded
    exact absurd recorded other
  · exact first

/-- The files that do not parse have no part in the verdict but for the record of them. -/
theorem judge_filter_parses (config : Config) (files : FileSystem) (root : String)
    (environment : Environment) (durationMs otherDurationMs : Nat) (collection : Collection) :
    ∃ result,
      (judge (config.handling .abort) files root environment durationMs
        { collection with files := collection.files.filter (parses files) }).2 = .ok result ∧
      let whole := verdict config files root environment otherDurationMs collection
      result.found = whole.found ∧ result.missing = whole.missing ∧
        result.firstSeen = whole.firstSeen ∧
        result.statistics.filesScanned = whole.statistics.filesScanned := by
  have pass : ∀ file ∈ collection.files.filter (parses files), Passes files .abort file :=
    fun file member => passes_of_parses _ (List.mem_filter.mp member).2
  refine ⟨_, judge_eq_ok_iff.mpr ⟨pass, rfl⟩, ?_⟩
  simp only [verdict, Findings.finish, mentions_filter_parses,
    List.countP_filter, Bool.and_self]
  exact ⟨trivial, rfl, trivial, trivial⟩

theorem outcome_abort_of_error {error : CheckError}
    (fails : (run (config.handling .skip) files root environment durationMs).outcome =
      .error error) :
    (∃ failure, error = .scan failure) ∧ ∃ strictError,
      (run (config.handling .abort) files root environment otherDurationMs).outcome =
        .error strictError := by
  constructor
  · rcases outcome_eq_error_iff.mp fails with
      ⟨failure, _, rfl⟩ | ⟨collection, _, before, file, behind, _, _, failsAt⟩
    · exact ⟨failure, rfl⟩
    · cases failsAt with
      | unread known => exact ⟨_, rfl⟩
      | unparsed known lenientIsStrict => cases lenientIsStrict
  · cases succeeds : (run (config.handling .abort) files root environment
        otherDurationMs).outcome with
    | error strictError => exact ⟨strictError, rfl⟩
    | ok result => cases fails.symm.trans (outcome_skip_of_abort succeeds)

end Check

/-- The two ways to handle files that do not parse agree.  A check that has to read all files
fails with a parse error just where one that may leave files out leaves out another than a
large one: at the first such file, with what is recorded of it.  Otherwise both give the
same result or both fail, and the files left out have no part in the result. -/
theorem check_policies_agree (config : Config) (files : FileSystem) (root : String)
    (environment : Environment) (durationMs otherDurationMs : Nat) :
    let strict := (Check.run (config.handling .abort) files root environment durationMs).outcome
    let lenient :=
      (Check.run (config.handling .skip) files root environment otherDurationMs).outcome
    (∀ result, strict = .ok result → lenient = .ok (result.lasting otherDurationMs)) ∧
    (∀ result, lenient = .ok result →
      ∃ collection, Check.survey config files root = .ok collection ∧
      ((∀ record ∈ result.skipped, record ∈ Check.tooLarge config collection) →
        strict = .ok (result.lasting durationMs)) ∧
      ((∃ record ∈ result.skipped, record ∉ Check.tooLarge config collection) →
        ∃ file line column,
          Check.IsFirstUnparsable files collection.files file line column ∧
          strict = .error (.parse (.invalidSource file.path line column)) ∧
          file.path ≠ ParseError.inlineSource ∧
          ∃ others, result.skipped = Check.tooLarge config collection ++
            ⟨file.path, (ParseError.invalidSource file.path line column).message⟩ :: others) ∧
      ∃ parsed,
        (Check.judge (config.handling .abort) files root environment durationMs
          { collection with
            files := collection.files.filter (Check.parses files) }).2 = .ok parsed ∧
        parsed.found = result.found ∧ parsed.missing = result.missing ∧
        parsed.firstSeen = result.firstSeen ∧
        parsed.statistics.filesScanned = result.statistics.filesScanned) ∧
    (∀ error, lenient = .error error →
      (∃ failure, error = .scan failure) ∧ ∃ strictError, strict = .error strictError) := by
  intro strict lenient
  refine ⟨fun result => Check.outcome_skip_of_abort, ?_,
    fun error => Check.outcome_abort_of_error⟩
  intro result succeeds
  obtain ⟨collection, surveyed, pass, rfl⟩ := Check.outcome_eq_ok_iff.mp succeeds
  refine ⟨collection, surveyed, ?_, ?_, Check.judge_filter_parses config files root environment
    durationMs otherDurationMs collection⟩
  · intro large
    have parsed := Check.parse_of_tooLarge pass large
    exact Check.outcome_eq_ok_iff.mpr ⟨collection, surveyed,
      fun file member => Check.passes_of_parses _ (parsed file member), rfl⟩
  · intro another
    obtain ⟨file, line, column, first⟩ := Check.first_unparsable_of_leftOut pass another
    obtain ⟨others, records⟩ := first.filterMap_leftOut?
    have fails : strict = .error (.parse (.invalidSource file.path line column)) :=
      Check.outcome_eq_error_iff.mpr (.inr ⟨collection, surveyed, first.halts⟩)
    have skipped : Check.leftOut config files collection = Check.tooLarge config collection ++
        ⟨file.path, (ParseError.invalidSource file.path line column).message⟩ :: others := by
      rw [Check.leftOut_eq, records]
    exact ⟨file, line, column, first, fails, Check.path_ne_inlineSource surveyed first.mem,
      others, skipped⟩

end EnvAudit
