import EnvAudit.Proofs.Findings
import EnvAudit.Report.Format
import Mathlib.Data.Finset.Card

/-!
# Gathering of findings

Findings are gathered by calls in any order: some add the references of a file, others
record a file that is left out.  Whatever the calls, the result reflects what they
told: each name once with the place of its first mention, and each record.
-/

namespace EnvAudit

namespace Findings

/-- What can be done to findings while they are gathered. -/
inductive Call where
  | add (file : Option String) (references : List Reference)
  | skip (path reason : String)

namespace Call

/-- The mentions that a call tells of. -/
def mentions : Call → List (String × Location)
  | add file references => references.map (mention file)
  | skip _ _ => []

/-- The record that a call makes. -/
def record? : Call → Option SkippedFile
  | add _ _ => none
  | skip path reason => some ⟨path, reason⟩

end Call

def perform (findings : Findings) : Call → Findings
  | .add file references => (findings.addReferences file references).1
  | .skip path reason => findings.skip path reason

/-- The findings after calls in order. -/
def gathered (calls : List Call) : Findings :=
  calls.foldl perform {}

theorem firstSeen_perform (findings : Findings) (call : Call) :
    (findings.perform call).firstSeen = call.mentions.foldl remember findings.firstSeen := by
  cases call with
  | add file references => exact firstSeen_addReferences findings file references
  | skip path reason => rfl

theorem skipped_perform (findings : Findings) (call : Call) :
    (findings.perform call).skipped = findings.skipped ++ call.record?.toList := by
  cases call with
  | add file references => simp [perform, skipped_addReferences, Call.record?]
  | skip path reason => rfl

theorem Consistent.perform {findings : Findings} (consistent : findings.Consistent) (call : Call) :
    (findings.perform call).Consistent := by
  cases call with
  | add file references => exact consistent.addReferences file references
  | skip path reason => exact consistent.skip path reason

theorem gathered_concat (calls : List Call) (last : Call) :
    gathered (calls ++ [last]) = (gathered calls).perform last := by
  simp [gathered]

/-- Whatever the calls, the names and the places agree. -/
theorem consistent_gathered (calls : List Call) : (gathered calls).Consistent := by
  induction calls using List.reverseRecOn with
  | nil => exact .start []
  | append_singleton calls last ih =>
      rw [gathered_concat]
      exact ih.perform last

theorem firstSeen_gathered (calls : List Call) :
    (gathered calls).firstSeen = firstMentions (calls.flatMap Call.mentions) := by
  induction calls using List.reverseRecOn with
  | nil => rfl
  | append_singleton calls last ih =>
      rw [gathered_concat, firstSeen_perform, ih, firstMentions, firstMentions,
        ← List.foldl_append, List.flatMap_append, List.flatMap_singleton]

theorem skipped_gathered (calls : List Call) :
    (gathered calls).skipped = calls.filterMap Call.record? := by
  induction calls using List.reverseRecOn with
  | nil => rfl
  | append_singleton calls last ih =>
      rw [gathered_concat, skipped_perform, ih, List.filterMap_append]
      cases last <;> rfl

theorem lookup_gathered (calls : List Call) (name : String) :
    (gathered calls).firstSeen.lookup name = (calls.flatMap Call.mentions).lookup name := by
  rw [firstSeen_gathered, lookup_firstMentions]

/-- Later calls leave the place of a name as it is. -/
theorem lookup_gathered_append {calls : List Call} {name : String} {location : Location}
    (known : (gathered calls).firstSeen.lookup name = some location) (later : List Call) :
    (gathered (calls ++ later)).firstSeen.lookup name = some location := by
  rw [lookup_gathered] at known ⊢
  rw [List.flatMap_append, List.lookup_append, known, Option.some_or]

/-- The names that a file adds are counted once each, whatever is known of them. -/
theorem count_addReferences (findings : Findings) (file : Option String)
    (references : List Reference) :
    (findings.addReferences file references).2 =
      (references.map Reference.name).toFinset.card := by
  -- The names are noted in another order than they come up in, so they are counted as a set.
  have after := merged file findings references
  have sameNames : (references.foldl (mergeReference file) ([], findings)).1.toFinset =
      (references.map Reference.name).toFinset := by
    ext name
    rw [List.mem_toFinset, List.mem_toFinset, after.names]
  rw [← sameNames, List.toFinset_card_of_nodup after.distinct]
  rfl

end Findings

/-- A result tells of the mentions, judged by an environment, and of the records. -/
structure CheckResult.Reflects (mentions : List (String × Location)) (records : List SkippedFile)
    (environment : Environment) (policy : EmptyValuePolicy) (result : CheckResult) : Prop where
  found_nodup : result.found.Nodup
  /-- The names stand in the order of their first mentions. -/
  found : result.found = (mentions.map Prod.fst).eraseDups
  firstSeen : ∀ name, result.firstSeen? name = mentions.lookup name
  located : ∀ name, (result.firstSeen? name).isSome ↔ name ∈ result.found
  missing : ∀ name, name ∈ result.missing ↔
    name ∈ result.found ∧ environment.isSet name policy = false
  missing_nodup : result.missing.Nodup
  missing_sublist : result.missing.Sublist result.found
  isComplete : result.isComplete ↔ result.missing = []
  /-- The report shows the place of every name that is missing. -/
  missingLine : ∀ name ∈ result.missing, ∃ location, result.firstSeen? name = some location ∧
    Report.missingLine result name = s!"  - {name} (first used at {location.describe})"
  skipped : result.skipped = records

namespace Findings

variable (calls : List Call) (root : Option String) (environment : Environment)
variable (policy : EmptyValuePolicy) (statistics : Statistics)

theorem found_gathered :
    ((gathered calls).finish root environment policy statistics).found =
      ((calls.flatMap Call.mentions).map Prod.fst).eraseDups := by
  rw [finish, ← (consistent_gathered calls).order, firstSeen_gathered, names_firstMentions]

theorem located_gathered (name : String) :
    (((gathered calls).finish root environment policy statistics).firstSeen? name).isSome ↔
      name ∈ ((gathered calls).finish root environment policy statistics).found :=
  (consistent_gathered calls).mem_names_iff.symm

/-- However findings are gathered, the result reflects what the calls told.  Places once known
are kept, and each call that adds references counts the different names in them. -/
theorem reflects_gathered :
    CheckResult.Reflects (calls.flatMap Call.mentions) (calls.filterMap Call.record?) environment
      policy ((gathered calls).finish root environment policy statistics) ∧
    (∀ later name location, (gathered calls).firstSeen.lookup name = some location →
      (gathered (calls ++ later)).firstSeen.lookup name = some location) ∧
    ∀ (findings : Findings) file references, (findings.addReferences file references).2 =
      (references.map Reference.name).toFinset.card := by
  refine ⟨?_, fun later name location known => lookup_gathered_append known later,
    count_addReferences⟩
  have found := found_gathered calls root environment policy statistics
  have located := located_gathered calls root environment policy statistics
  have missing : ((gathered calls).finish root environment policy statistics).missing =
      ((gathered calls).finish root environment policy statistics).found.filter
        fun name => !environment.isSet name policy :=
    rfl
  have distinct : ((gathered calls).finish root environment policy statistics).found.Nodup :=
    (consistent_gathered calls).distinct
  refine ⟨distinct, found, lookup_gathered calls, located, ?_, ?_, ?_, List.isEmpty_iff, ?_,
    skipped_gathered calls⟩
  · intro name
    rw [missing, List.mem_filter, Bool.not_eq_true']
  · exact missing ▸ distinct.filter _
  · exact missing ▸ List.filter_sublist
  · intro name absent
    rw [missing] at absent
    obtain ⟨location, seen⟩ :=
      Option.isSome_iff_exists.mp ((located name).mpr (List.mem_of_mem_filter absent))
    exact ⟨location, seen, by rw [Report.missingLine, seen]⟩

end Findings

end EnvAudit
