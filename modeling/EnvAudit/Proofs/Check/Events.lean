import EnvAudit.Proofs.Check.Outcome
import EnvAudit.Proofs.Gathering
import Mathlib.Algebra.GroupWithZero.Nat

/-!
# What the events tell

The events of a check account for every file that is collected: one event for each, in
order, between the first and the last.  The numbers in the result are those that the
events tell.  A check that fails breaks off before the last event.
-/

namespace EnvAudit

/-- The elements of several lists are as many as those of each list together, just if no two
lists share one. -/
theorem card_flatMap_le {α β : Type} [DecidableEq β] (elements : α → List β) (items : List α) :
    (items.flatMap elements).toFinset.card ≤
      (items.map fun item => (elements item).toFinset.card).sum ∧
    ((items.flatMap elements).toFinset.card =
        (items.map fun item => (elements item).toFinset.card).sum ↔
      items.Pairwise fun first second => ∀ x, ¬ (x ∈ elements first ∧ x ∈ elements second)) := by
  induction items with
  | nil => simp
  | cons item items ih =>
      obtain ⟨atMost, exactly⟩ := ih
      -- What the union lacks is what the first list shares with the others.
      have both := Finset.card_union_add_card_inter (elements item).toFinset
        (items.flatMap elements).toFinset
      have apart : ((elements item).toFinset ∩ (items.flatMap elements).toFinset).card = 0 ↔
          ∀ other ∈ items, ∀ x, ¬ (x ∈ elements item ∧ x ∈ elements other) := by
        rw [Finset.card_eq_zero, Finset.eq_empty_iff_forall_notMem]
        simp only [Finset.mem_inter, List.mem_toFinset, List.mem_flatMap]
        constructor
        · rintro none other member x ⟨here, there⟩
          exact none x ⟨here, other, member, there⟩
        · rintro none x ⟨here, other, member, there⟩
          exact none other member x ⟨here, there⟩
      rw [List.flatMap_cons, List.toFinset_append, List.map_cons, List.sum_cons,
        List.pairwise_cons, ← apart, ← exactly]
      omega

namespace Event

def isChecked : Event → Bool
  | checked .. => true
  | _ => false

def isSkipped : Event → Bool
  | skipped .. => true
  | _ => false

def isComplete : Event → Bool
  | complete .. => true
  | _ => false

def record? : Event → Option SkippedFile
  | skipped path cause => some ⟨path, cause.reason⟩
  | _ => none

/-- The number of the names in the file that has been read. -/
def names? : Event → Option Nat
  | checked _ names => some names
  | _ => none

theorem isSkipped_eq (event : Event) : event.isSkipped = event.record?.isSome := by
  cases event <;> rfl

end Event

namespace Check

def nameCount (files : FileSystem) (file : SourceFile) : Nat :=
  ((mentionsIn files file).map Prod.fst).toFinset.card

/-- An event tells of a source file: that it has been read, with the number of the names in it,
or why it does not parse. -/
inductive Tells (files : FileSystem) (file : SourceFile) : Event → Prop
  | checked {references : List Reference} (known : referencesIn files file = .ok references) :
      Tells files file (.checked file (references.map Reference.name).toFinset.card)
  | leftOut {error : ParseError} (known : referencesIn files file = .error (.parse error)) :
      Tells files file (.skipped file.path (.unparsable error))

variable {files : FileSystem} {sources : List SourceFile} {told : List Event}

namespace Tells

variable {file : SourceFile} {event : Event}

theorem isChecked_eq (tells : Tells files file event) : event.isChecked = parses files file := by
  cases tells with
  | checked known => exact (parses_of_ok known).symm
  | leftOut known => exact (parses_of_error known).symm

theorem record?_eq (tells : Tells files file event) : event.record? = leftOut? files file := by
  cases tells with
  | checked known => exact (leftOut?_of_ok known).symm
  | leftOut known => exact (leftOut?_of_unparsable known).symm

theorem names?_getD (tells : Tells files file event) :
    event.names?.getD 0 = nameCount files file := by
  cases tells with
  | checked known =>
      rw [nameCount, mentionsIn_of_ok known]
      simp [Event.names?, Findings.mention, Function.comp_def]
  | leftOut known =>
      rw [nameCount, mentionsIn_of_error known]
      rfl

theorem isSkipped_eq (tells : Tells files file event) :
    event.isSkipped = !parses files file := by
  cases tells with
  | checked known =>
      rw [parses_of_ok known]
      rfl
  | leftOut known =>
      rw [parses_of_error known]
      rfl

theorem not_isComplete (tells : Tells files file event) : event.isComplete = false := by
  cases tells <;> rfl

end Tells

theorem Passage.events {before after : Progress} (passage : Passage files sources before after) :
    ∃ told, after.events = before.events ++ told ∧ List.Forall₂ (Tells files) sources told := by
  induction passage with
  | nil progress => exact ⟨[], by simp, .nil⟩
  | parsed known _ ih =>
      obtain ⟨told, events, tells⟩ := ih
      refine ⟨_, ?_, .cons (.checked known) tells⟩
      rw [events, Progress.add, Findings.count_addReferences, List.append_assoc]
      rfl
  | leftOut known _ ih =>
      obtain ⟨told, events, tells⟩ := ih
      refine ⟨_, ?_, .cons (.leftOut known) tells⟩
      rw [events, Progress.skip, List.append_assoc]
      rfl

section Counts

variable (tells : List.Forall₂ (Tells files) sources told)

include tells

theorem countP_isChecked : told.countP Event.isChecked = sources.countP (parses files) := by
  induction tells with
  | nil => rfl
  | cons first _ ih => rw [List.countP_cons, List.countP_cons, ih, first.isChecked_eq]

theorem filterMap_record? : told.filterMap Event.record? = sources.filterMap (leftOut? files) := by
  induction tells with
  | nil => rfl
  | cons first _ ih => rw [List.filterMap_cons, List.filterMap_cons, ih, first.record?_eq]

theorem sum_names? :
    (told.filterMap Event.names?).sum = (sources.map (nameCount files)).sum := by
  induction tells with
  | nil => rfl
  | @cons file event _ _ first _ ih =>
      rw [List.map_cons, List.sum_cons, ← ih, ← first.names?_getD, List.filterMap_cons]
      cases event.names? with
      | none => simp
      | some count => simp

/-- Every file is either read or left out. -/
theorem countP_checked_add_skipped :
    told.countP Event.isChecked + told.countP Event.isSkipped = sources.length := by
  induction tells with
  | nil => rfl
  | @cons file event _ _ first _ ih =>
      rw [List.countP_cons, List.countP_cons, List.length_cons, ← ih, first.isChecked_eq,
        first.isSkipped_eq]
      cases parses files file <;> simp <;> omega

end Counts

theorem countP_isSkipped (events : List Event) :
    events.countP Event.isSkipped = (events.filterMap Event.record?).length := by
  rw [List.length_filterMap_eq_countP]
  exact congrArg (fun test => events.countP test) (funext Event.isSkipped_eq)

/-- The names in source files are at most as many as those in each file together, and just as many
if no name is in two files. -/
theorem card_names_mentions_le (files : FileSystem) (sources : List SourceFile) :
    ((mentions files sources).map Prod.fst).eraseDups.length ≤
      (sources.map (nameCount files)).sum ∧
    (((mentions files sources).map Prod.fst).eraseDups.length =
        (sources.map (nameCount files)).sum ↔
      sources.Pairwise fun first second =>
        ∀ name, ¬ (RefersTo files first name ∧ RefersTo files second name)) := by
  have distinct : ((mentions files sources).map Prod.fst).eraseDups.length =
      (sources.flatMap fun file => (mentionsIn files file).map Prod.fst).toFinset.card := by
    rw [← Findings.names_firstMentions, ← List.toFinset_card_of_nodup
      (Findings.nodup_firstMentions _), Findings.names_firstMentions, mentions, List.map_flatMap]
    congr 1
    ext name
    simp
  simp only [distinct, ← mem_names_mentionsIn_iff]
  exact card_flatMap_le (fun file => (mentionsIn files file).map Prod.fst) sources

/-- The events before those about the source files that are read. -/
def opening (config : Config) (root : String) (collection : Collection) : List Event :=
  .started root collection.files.length collection.ignored ::
    collection.oversized.map fun path =>
      .skipped path (.tooLarge config.scan.effectiveMaxFileSize)

/-- The events of a whole check, with those that tell of the source files. -/
def trace (config : Config) (root : String) (collection : Collection) (told : List Event)
    (scanned skipped found missing : Nat) : List Event :=
  opening config root collection ++ told ++ [.complete scanned skipped found missing]

section Trace

variable (config : Config) (root : String) (collection : Collection) (told : List Event)
variable (scanned skipped found missing : Nat)

theorem countP_isChecked_trace :
    (trace config root collection told scanned skipped found missing).countP Event.isChecked =
      told.countP Event.isChecked := by
  have none : (opening config root collection).countP Event.isChecked = 0 := by
    simp [opening, Event.isChecked, List.countP_eq_zero]
  rw [trace, List.countP_append, List.countP_append, none, Nat.zero_add]
  rfl

theorem filterMap_names?_trace :
    (trace config root collection told scanned skipped found missing).filterMap Event.names? =
      told.filterMap Event.names? := by
  have none : (opening config root collection).filterMap Event.names? = [] := by
    simp [opening, Event.names?]
  rw [trace, List.filterMap_append, List.filterMap_append, none, List.nil_append]
  exact List.append_nil _

theorem filterMap_record?_trace :
    (trace config root collection told scanned skipped found missing).filterMap Event.record? =
      (collection.oversized.map fun path =>
        ⟨path, (SkipCause.tooLarge config.scan.effectiveMaxFileSize).reason⟩) ++
      told.filterMap Event.record? := by
  have large : (opening config root collection).filterMap Event.record? =
      collection.oversized.map fun path =>
        ⟨path, (SkipCause.tooLarge config.scan.effectiveMaxFileSize).reason⟩ := by
    rw [opening, List.filterMap_cons_none rfl, List.filterMap_map]
    exact congrFun List.filterMap_eq_map collection.oversized
  rw [trace, List.filterMap_append, List.filterMap_append, large]
  exact List.append_nil _

end Trace

/-- The events of a check that succeeds account for every file that has been collected, and for
the numbers in the result. -/
structure Accounts (config : Config) (files : FileSystem) (root : String)
    (collection : Collection) (events : List Event) (result : CheckResult) : Prop where
  trace : ∃ told, List.Forall₂ (Tells files) collection.files told ∧
    events = Check.trace config root collection told result.statistics.filesScanned
      result.statistics.filesSkipped result.found.length result.missing.length
  scanned : result.statistics.filesScanned = events.countP Event.isChecked
  skipped : result.statistics.filesSkipped = events.countP Event.isSkipped
  skipped_length : result.statistics.filesSkipped = result.skipped.length
  records : events.filterMap Event.record? = result.skipped
  total : result.statistics.filesScanned + result.statistics.filesSkipped =
    collection.files.length + collection.oversized.length
  found_le : result.found.length ≤ (events.filterMap Event.names?).sum
  /-- Every name is counted for one file only just if no two files refer to it. -/
  found_eq_iff : result.found.length = (events.filterMap Event.names?).sum ↔
    collection.files.Pairwise fun first second =>
      ∀ name, ¬ (RefersTo files first name ∧ RefersTo files second name)

/-- An event is about a source file that has been reached, whatever it tells of it. -/
inductive About (file : SourceFile) : Event → Prop
  | checked (names : Nat) : About file (.checked file names)
  | leftOut (error : ParseError) : About file (.skipped file.path (.unparsable error))

/-- Events as they are reported from the first to the last: one for each file. -/
def IsTrace (config : Config) (root : String) (collection : Collection) (events : List Event) :
    Prop :=
  ∃ told scanned skipped found missing, List.Forall₂ About collection.files told ∧
    events = trace config root collection told scanned skipped found missing

/-- The events of a check that fails: none if the tree cannot be surveyed, and otherwise those
before the file where it fails. -/
inductive BreaksOff (config : Config) (files : FileSystem) (root : String) :
    List Event → CheckError → Prop
  | unsurveyed {failure : ScanError} (failed : survey config files root = .error failure) :
      BreaksOff config files root [] (.scan failure)
  | halted {collection : Collection} {before behind : List SourceFile} {file : SourceFile}
      {told : List Event} {error : CheckError}
      (surveyed : survey config files root = .ok collection)
      (whole : collection.files = before ++ file :: behind)
      (fails : FailsAt files config.check.effectiveParseErrorPolicy file error)
      (tells : List.Forall₂ (Tells files) before told) :
      BreaksOff config files root (opening config root collection ++ told) error

variable {config : Config} {root : String} {environment : Environment} {durationMs : Nat}
variable {collection : Collection} {error : CheckError} {events : List Event}

theorem Tells.about {file : SourceFile} {event : Event} (tells : Tells files file event) :
    About file event := by
  cases tells with
  | checked known => exact .checked _
  | leftOut known => exact .leftOut _

theorem not_isComplete_opening {event : Event}
    (member : event ∈ opening config root collection) : event.isComplete = false := by
  rcases List.mem_cons.mp member with rfl | large
  · rfl
  · obtain ⟨path, _, rfl⟩ := List.mem_map.mp large
    rfl

theorem not_isComplete_told (tells : List.Forall₂ (Tells files) sources told) :
    ∀ event ∈ told, event.isComplete = false := by
  induction tells with
  | nil => simp
  | cons first _ ih => exact List.forall_mem_cons.mpr ⟨first.not_isComplete, ih⟩

namespace BreaksOff

theorem not_isComplete (breaksOff : BreaksOff config files root events error) :
    ∀ event ∈ events, event.isComplete = false := by
  cases breaksOff with
  | unsurveyed failed => simp
  | halted surveyed whole fails tells =>
      intro event member
      rcases List.mem_append.mp member with first | further
      · exact not_isComplete_opening first
      · exact not_isComplete_told tells event further

/-- A check that fails would have gone on. -/
theorem proper_prefix (breaksOff : BreaksOff config files root events error)
    (surveyed : survey config files root = .ok collection) :
    ∃ trace, IsTrace config root collection trace ∧ events <+: trace ∧ events ≠ trace := by
  cases breaksOff with
  | unsurveyed failed => cases failed.symm.trans surveyed
  | @halted _ before behind file told _ known whole fails tells =>
      cases known.symm.trans surveyed
      have reached : List.Forall₂ About before told := tells.imp fun _ _ => Tells.about
      -- The events that are not reached could tell anything of their files.
      have further : List.Forall₂ About (file :: behind)
          ((file :: behind).map fun other => .checked other 0) := by
        rw [List.forall₂_map_right_iff, List.forall₂_same]
        exact fun other _ => .checked 0
      have all : List.Forall₂ About collection.files
          (told ++ (file :: behind).map fun other => .checked other 0) := by
        rw [whole]
        exact List.rel_append reached further
      refine ⟨_, ⟨_, 0, 0, 0, 0, all, rfl⟩, ?_, ?_⟩
      · rw [trace, ← List.append_assoc, List.append_assoc (_ ++ told)]
        exact List.prefix_append _ _
      · intro same
        have lengths := congrArg List.length same
        simp only [trace, List.length_append, List.length_map, List.length_cons] at lengths
        omega

end BreaksOff

theorem accounts_of_pass
    (pass : ∀ file ∈ collection.files,
      Passes files config.check.effectiveParseErrorPolicy file) :
    Accounts config files root collection
      (judge config files root environment durationMs collection).1
      (verdict config files root environment durationMs collection) := by
  obtain ⟨after, passage, judged⟩ := judge_of_pass pass
  obtain ⟨told, events, tells⟩ := passage.events
  -- The result stands in its own last event, so a name keeps the rewriting out of it.
  generalize whole : verdict config files root environment durationMs collection = result
  have scanned : result.statistics.filesScanned = told.countP Event.isChecked := by
    rw [← whole, countP_isChecked tells]
    rfl
  have skipped : result.skipped = (collection.oversized.map fun path =>
      ⟨path, (SkipCause.tooLarge config.scan.effectiveMaxFileSize).reason⟩) ++
        told.filterMap Event.record? := by
    rw [← whole, filterMap_record? tells]
    rfl
  have skippedLength : result.statistics.filesSkipped = result.skipped.length := by
    rw [← whole]
    rfl
  have found : result.found = ((mentions files collection.files).map Prod.fst).eraseDups := by
    rw [← whole, found_verdict]
  have traced : (judge config files root environment durationMs collection).1 =
      trace config root collection told result.statistics.filesScanned
        result.statistics.filesSkipped result.found.length result.missing.length := by
    rw [judged, events, ← whole]
    rfl
  have recorded := filterMap_record?_trace config root collection told
    result.statistics.filesScanned result.statistics.filesSkipped result.found.length
    result.missing.length
  obtain ⟨atMost, exactly⟩ := card_names_mentions_le files collection.files
  rw [traced]
  refine ⟨⟨told, tells, rfl⟩, ?_, ?_, skippedLength, ?_, ?_, ?_, ?_⟩
  · rw [countP_isChecked_trace, scanned]
  · rw [countP_isSkipped, recorded, ← skipped, skippedLength]
  · rw [recorded, skipped]
  · have all := countP_checked_add_skipped tells
    rw [countP_isSkipped] at all
    rw [skippedLength, skipped, scanned, List.length_append, List.length_map]
    omega
  · rw [filterMap_names?_trace, sum_names? tells, found]
    exact atMost
  · rw [filterMap_names?_trace, sum_names? tells, found]
    exact exactly

theorem breaksOff_of_halts (surveyed : survey config files root = .ok collection)
    (halts : Halts files config.check.effectiveParseErrorPolicy collection.files error) :
    BreaksOff config files root (judge config files root environment durationMs collection).1
      error := by
  obtain ⟨before, file, behind, after, whole, fails, passage, judged⟩ := judge_of_halts halts
  obtain ⟨told, events, tells⟩ := passage.events
  rw [judged, events]
  exact .halted surveyed whole fails tells

end Check

/-- The events of a check that succeeds account for every file that has been collected and for
the numbers in the result.  Those of one that fails break off before the last of them,
and there are none if the tree cannot be surveyed. -/
theorem check_events_account (config : Config) (files : FileSystem) (root : String)
    (environment : Environment) (durationMs : Nat) :
    let run := Check.run config files root environment durationMs
    (∀ result, run.outcome = .ok result → ∃ collection,
      Check.survey config files root = .ok collection ∧
        Check.Accounts config files root collection run.events result) ∧
    (∀ error, run.outcome = .error error →
      Check.BreaksOff config files root run.events error ∧
      (∀ event ∈ run.events, event.isComplete = false) ∧
      ∀ collection, Check.survey config files root = .ok collection →
        ∃ trace, Check.IsTrace config root collection trace ∧
          run.events <+: trace ∧ run.events ≠ trace) ∧
    ∀ failure, Check.survey config files root = .error failure → run.events = [] := by
  intro run
  have breaksOff (error : CheckError) (fails : run.outcome = .error error) :
      Check.BreaksOff config files root run.events error := by
    rcases Check.outcome_eq_error_iff.mp fails with
      ⟨failure, failed, rfl⟩ | ⟨collection, surveyed, halts⟩
    · simp only [run, Check.run, failed]
      exact .unsurveyed failed
    · simp only [run, Check.run, surveyed]
      exact Check.breaksOff_of_halts surveyed halts
  refine ⟨?_, ?_, ?_⟩
  · intro result succeeds
    obtain ⟨collection, surveyed, pass, rfl⟩ := Check.outcome_eq_ok_iff.mp succeeds
    refine ⟨collection, surveyed, ?_⟩
    simp only [run, Check.run, surveyed]
    exact Check.accounts_of_pass pass
  · intro error fails
    have off := breaksOff error fails
    exact ⟨off, off.not_isComplete, fun collection => off.proper_prefix⟩
  · intro failure failed
    simp only [run, Check.run, failed]

end EnvAudit
