import EnvAudit.Check
import EnvAudit.Proofs.Check.Meaning
import EnvAudit.Proofs.Findings
import EnvAudit.Proofs.Report.Decoding
import EnvAudit.Proofs.Report.Writing
import EnvAudit.Report.Format

/-!
# Lossless reports

The report for programs is a JSON document, from which the result of the check can be read again,
with all its parts in their order.
-/

namespace EnvAudit

/-- A check of a tree or of a text can have this result. -/
inductive CheckResult.Returned : CheckResult → Prop
  | tree {config : Config} {files : FileSystem} {root : String} {environment : Environment}
      {durationMs : Nat} {result : CheckResult}
      (ran : (Check.run config files root environment durationMs).outcome = .ok result) :
      Returned result
  | text {text : String} {dialect : Dialect} {environment : Environment}
      {policy : EmptyValuePolicy} {durationMs : Nat} {result : CheckResult}
      (checked : Check.source text dialect environment policy durationMs = .ok result) :
      Returned result

/-- Each name that was found has one place. -/
structure CheckResult.Placed (result : CheckResult) : Prop where
  names : result.firstSeen.map Prod.fst = result.found
  distinct : result.found.Nodup

theorem CheckResult.Returned.placed {result : CheckResult} (returned : result.Returned) :
    result.Placed := by
  cases returned with
  | tree ran =>
      obtain ⟨collection, -, -, rfl⟩ := Check.outcome_eq_ok_iff.mp ran
      refine ⟨Check.placed_verdict, ?_⟩
      rw [← Check.placed_verdict]
      exact Findings.nodup_firstMentions _
  | @text text dialect _ _ _ _ checked =>
      rw [Check.source] at checked
      cases parsed : references text dialect with
      | error error =>
          rw [parsed] at checked
          cases checked
      | ok found =>
          rw [parsed] at checked
          cases checked
          have consistent := (Findings.Consistent.start []).addReferences none found
          exact ⟨consistent.order, consistent.distinct⟩

namespace Json

/-- What an object has under a name. -/
def member? (name : String) : Json → Option Json
  | object fields => fields.lookup name
  | _ => none

def natural? : Json → Option Nat
  | natural value => some value
  | _ => none

def text? : Json → Option String
  | text value => some value
  | _ => none

/-- The items of a list, if all of them can be read. -/
def list? {α : Type} (read : Json → Option α) : Json → Option (List α)
  | list items => items.mapM read
  | _ => none

/-- The fields of an object, if all of them can be read. -/
def object? {α : Type} (read : Json → Option α) : Json → Option (List (String × α))
  | object fields => fields.mapM fun (name, value) => (read value).map (name, ·)
  | _ => none

/-- What an object has under a name that it need not have. -/
def optional? {α : Type} (name : String) (read : Json → Option α) (value : Json) :
    Option (Option α) :=
  (value.member? name).mapM read

/-- What an object has under a name that it has to have. -/
def required? {α : Type} (name : String) (read : Json → Option α) (value : Json) : Option α :=
  (value.member? name).bind read

end Json

namespace Report

def readLocation (value : Json) : Option Location := do
  return {
    file := ← value.optional? "file" Json.text?
    line := ← value.required? "line" Json.natural?
    column := ← value.required? "column" Json.natural? }

def readSkipped (value : Json) : Option SkippedFile := do
  return {
    path := ← value.required? "path" Json.text?
    reason := ← value.required? "reason" Json.text? }

def readStatistics (value : Json) : Option Statistics := do
  return {
    filesScanned := ← value.required? "filesScanned" Json.natural?
    filesSkipped := ← value.required? "filesSkipped" Json.natural?
    entriesIgnored := ← value.required? "entriesIgnored" Json.natural?
    durationMs := ← value.required? "durationMs" Json.natural? }

/-- The places of the names in the order of the names. -/
def arrange (names : List String) (places : List (String × Location)) :
    Option (List (String × Location)) :=
  names.mapM fun name => (places.lookup name).map (name, ·)

/-- The result that a report tells of. -/
def readResult (value : Json) : Option CheckResult := do
  let found ← value.required? "found" (Json.list? Json.text?)
  return {
    root := ← value.optional? "root" Json.text?
    found
    missing := ← value.required? "missing" (Json.list? Json.text?)
    firstSeen := ← arrange found (← value.required? "firstSeen" (Json.object? readLocation))
    skipped := (← value.optional? "skipped" (Json.list? readSkipped)).getD []
    statistics := ← value.required? "stats" readStatistics }

/-- What a report tells of a place. -/
structure TellsPlace (value : Json) (location : Location) : Prop where
  file : value.member? "file" = location.file.map .text
  line : value.member? "line" = some (.natural location.line)
  column : value.member? "column" = some (.natural location.column)

/-- What a report tells of a file that was left out. -/
structure TellsSkipped (value : Json) (file : SkippedFile) : Prop where
  path : value.member? "path" = some (.text file.path)
  reason : value.member? "reason" = some (.text file.reason)

/-- What a report tells of the numbers of a check. -/
structure TellsStatistics (value : Json) (statistics : Statistics) : Prop where
  filesScanned : value.member? "filesScanned" = some (.natural statistics.filesScanned)
  filesSkipped : value.member? "filesSkipped" = some (.natural statistics.filesSkipped)
  entriesIgnored : value.member? "entriesIgnored" = some (.natural statistics.entriesIgnored)
  durationMs : value.member? "durationMs" = some (.natural statistics.durationMs)

/-- What a report tells of a result. -/
structure Tells (value : Json) (result : CheckResult) : Prop where
  root : value.member? "root" = result.root.map .text
  found : value.member? "found" = some (.list (result.found.map .text))
  missing : value.member? "missing" = some (.list (result.missing.map .text))
  isComplete : value.member? "isComplete" = some (.boolean result.isComplete)
  /-- The names are in strictly ascending order. -/
  firstSeen : ∃ places, value.member? "firstSeen" = some (.object places) ∧
    (places.map Prod.fst).Pairwise (· < ·) ∧
    (∀ name, name ∈ places.map Prod.fst ↔ name ∈ result.found) ∧
    ∀ name, Option.Rel TellsPlace (places.lookup name) (result.firstSeen? name)
  skipped : Option.Rel (fun value skipped => ∃ items, value = .list items ∧
      List.Forall₂ TellsSkipped items skipped)
    (value.member? "skipped") (if result.skipped = [] then none else some result.skipped)
  statistics : Option.Rel TellsStatistics (value.member? "stats") (some result.statistics)

/-- A text stands for one value only, and that value is all that is needed to know the result. -/
structure Lossless (text : List Char) (value : Json) (result : CheckResult) : Prop where
  spelled : Json.Document value text
  unambiguous : ∀ other, Json.Document other text → other = value
  decoded : Json.decode text = some value
  tells : Tells value result
  read : readResult value = some result

variable {result other : CheckResult}

/-- The parts of a report under their names. -/
theorem member?_ofResult (result : CheckResult) :
    (ofResult result).member? "root" = result.root.map .text ∧
    (ofResult result).member? "found" = some (.list (result.found.map .text)) ∧
    (ofResult result).member? "missing" = some (.list (result.missing.map .text)) ∧
    (ofResult result).member? "isComplete" = some (.boolean result.isComplete) ∧
    (ofResult result).member? "firstSeen" =
      some (.object ((sortedPlaces result).map fun (name, location) =>
        (name, ofLocation location))) ∧
    (ofResult result).member? "skipped" =
      (if result.skipped = [] then none else some (.list (result.skipped.map ofSkipped))) ∧
    (ofResult result).member? "stats" = some (ofStatistics result.statistics) := by
  obtain ⟨root, found, missing, firstSeen, skipped, statistics⟩ := result
  -- The fields that may be absent stand at the front and near the end.
  cases root <;> cases skipped <;> simp [ofResult, Json.member?, List.lookup]

/-- What is looked up depends on no order, if no name is given twice. -/
theorem lookup_perm {α : Type} {entries others : List (String × α)}
    (order : entries.Perm others) (distinct : (entries.map Prod.fst).Nodup) (name : String) :
    entries.lookup name = others.lookup name := by
  induction order with
  | nil => rfl
  | cons entry order ih =>
      rw [List.lookup_cons, List.lookup_cons, ih (List.nodup_cons.mp distinct).2]
  | swap first second entries =>
      obtain ⟨first, value⟩ := first
      obtain ⟨second, other⟩ := second
      have different : second ≠ first := by
        rintro rfl
        simp at distinct
      by_cases isFirst : name = first
      · have notSecond : (name == second) = false := by simpa [isFirst] using different.symm
        simp [List.lookup_cons, notSecond]
      · have notFirst : (name == first) = false := by simpa using isFirst
        simp [List.lookup_cons, notFirst]
  | trans before behind beforeIh behindIh =>
      rw [beforeIh distinct, behindIh ((before.map Prod.fst).nodup_iff.mp distinct)]

theorem perm_sortedPlaces (result : CheckResult) :
    (sortedPlaces result).Perm result.firstSeen :=
  List.mergeSort_perm _ _

/-- The names of the places are in strictly ascending order. -/
theorem ascending_sortedPlaces (placed : result.Placed) :
    ((sortedPlaces result).map Prod.fst).Pairwise (· < ·) := by
  have ordered : (sortedPlaces result).Pairwise fun first second =>
      decide (first.1 ≤ second.1) = true := by
    apply List.pairwise_mergeSort
    · intro first second third below above
      exact decide_eq_true (String.le_trans (of_decide_eq_true below) (of_decide_eq_true above))
    · intro first second
      simpa using String.le_total first.1 second.1
  have distinct : ((sortedPlaces result).map Prod.fst).Nodup :=
    ((perm_sortedPlaces result).map Prod.fst).nodup_iff.mpr (placed.names ▸ placed.distinct)
  rw [List.pairwise_map]
  refine (ordered.and (List.pairwise_map.mp distinct)).imp ?_
  rintro first second ⟨below, different⟩
  rw [← String.not_le]
  exact fun above => different (String.le_antisymm (of_decide_eq_true below) above)

theorem lookup_sortedPlaces (placed : result.Placed) (name : String) :
    (sortedPlaces result).lookup name = result.firstSeen? name :=
  (lookup_perm (perm_sortedPlaces result).symm (placed.names ▸ placed.distinct) name).symm

theorem lookup_of_mem {α : Type} {entries : List (String × α)} {name : String} {value : α}
    (distinct : (entries.map Prod.fst).Nodup) (member : (name, value) ∈ entries) :
    entries.lookup name = some value := by
  obtain ⟨before, behind, rfl⟩ := List.append_of_mem member
  rw [lookup_perm List.perm_middle distinct, List.lookup_cons_self]

theorem mapM_map_eq_some {α β : Type} {write : α → β} {read : β → Option α} {values : List α}
    (reads : ∀ value ∈ values, read (write value) = some value) :
    (values.map write).mapM read = some values := by
  induction values with
  | nil => rfl
  | cons value values ih =>
      obtain ⟨first, others⟩ := List.forall_mem_cons.mp reads
      simp [first, ih others]

theorem readLocation_ofLocation (location : Location) :
    readLocation (ofLocation location) = some location := by
  obtain ⟨file, line, column⟩ := location
  cases file <;> simp [readLocation, ofLocation, Json.optional?, Json.required?, Json.member?,
    List.lookup, Json.text?, Json.natural?]

theorem readSkipped_ofSkipped (file : SkippedFile) : readSkipped (ofSkipped file) = some file := by
  simp [readSkipped, ofSkipped, Json.required?, Json.member?, List.lookup, Json.text?]

theorem readStatistics_ofStatistics (statistics : Statistics) :
    readStatistics (ofStatistics statistics) = some statistics := by
  simp [readStatistics, ofStatistics, Json.required?, Json.member?, List.lookup, Json.natural?]

theorem tellsPlace_ofLocation (location : Location) :
    TellsPlace (ofLocation location) location := by
  obtain ⟨file, line, column⟩ := location
  cases file <;> constructor <;> simp [ofLocation, Json.member?, List.lookup]

/-- The names of a result can be put into their order again. -/
theorem arrange_sortedPlaces (placed : result.Placed) :
    arrange result.found (sortedPlaces result) = some result.firstSeen := by
  rw [arrange, ← placed.names]
  refine mapM_map_eq_some fun (name, location) member => ?_
  have known : result.firstSeen.lookup name = some location :=
    lookup_of_mem (placed.names ▸ placed.distinct) member
  rw [lookup_sortedPlaces placed, CheckResult.firstSeen?, known]
  rfl

/-- The result is read again from its report. -/
theorem readResult_ofResult (placed : result.Placed) :
    readResult (ofResult result) = some result := by
  obtain ⟨root, found, missing, -, firstSeen, skipped, statistics⟩ := member?_ofResult result
  have texts (values : List String) : (values.map Json.text).mapM Json.text? = some values :=
    mapM_map_eq_some fun _ _ => rfl
  have places : Json.object? readLocation (.object ((sortedPlaces result).map
      fun (name, location) => (name, ofLocation location))) = some (sortedPlaces result) :=
    mapM_map_eq_some fun (name, location) _ => by simp [readLocation_ofLocation]
  have rootRead : (ofResult result).optional? "root" Json.text? = some result.root := by
    rw [Json.optional?, root]
    cases result.root <;> rfl
  have skippedRead : ∃ read, (ofResult result).optional? "skipped" (Json.list? readSkipped) =
      some read ∧ read.getD [] = result.skipped := by
    rw [Json.optional?, skipped]
    split
    · next empty => exact ⟨none, rfl, empty.symm⟩
    · have items : (result.skipped.map ofSkipped).mapM readSkipped = some result.skipped :=
        mapM_map_eq_some fun file _ => readSkipped_ofSkipped file
      exact ⟨some result.skipped, by simp [Json.list?, items], rfl⟩
  obtain ⟨read, optional, given⟩ := skippedRead
  simp [readResult, Json.required?, found, missing, firstSeen, statistics, Json.list?, texts,
    places, arrange_sortedPlaces placed, rootRead, optional, given,
    readStatistics_ofStatistics]

theorem lookup_map_value {α β : Type} (change : α → β) (entries : List (String × α))
    (name : String) :
    (entries.map fun (name, value) => (name, change value)).lookup name =
      (entries.lookup name).map change := by
  induction entries with
  | nil => rfl
  | cons entry entries ih =>
      obtain ⟨other, value⟩ := entry
      rw [List.map_cons, List.lookup_cons, List.lookup_cons, ih]
      cases name == other <;> rfl

/-- The fields of a report tell of the result. -/
theorem tells_ofResult (placed : result.Placed) : Tells (ofResult result) result := by
  obtain ⟨root, found, missing, isComplete, firstSeen, skipped, statistics⟩ :=
    member?_ofResult result
  refine ⟨root, found, missing, isComplete, ⟨_, firstSeen, ?_, ?_, ?_⟩, ?_, ?_⟩
  · simpa [List.map_map, Function.comp_def] using ascending_sortedPlaces placed
  · intro name
    rw [← placed.names]
    have same := ((perm_sortedPlaces result).map Prod.fst).mem_iff (a := name)
    simpa [List.map_map, Function.comp_def] using same
  · intro name
    rw [lookup_map_value, lookup_sortedPlaces placed]
    cases result.firstSeen? name with
    | none => exact .none
    | some location => exact .some (tellsPlace_ofLocation location)
  · rw [skipped]
    split
    · exact .none
    · refine .some ⟨_, rfl, ?_⟩
      exact List.forall₂_map_left_iff.mpr (List.forall₂_same.mpr fun file _ => ⟨rfl, rfl⟩)
  · rw [statistics]
    refine .some ⟨rfl, rfl, rfl, rfl⟩

theorem lossless_pretty (placed : result.Placed) :
    Lossless (ofResult result).pretty.toList (ofResult result) result where
  spelled := Json.document_pretty _
  unambiguous other spelled := by
    have decoded := Json.decode_of_document (Json.document_pretty (ofResult result))
    exact Option.some.inj ((Json.decode_of_document spelled).symm.trans decoded)
  decoded := Json.decode_of_document (Json.document_pretty _)
  tells := tells_ofResult placed
  read := readResult_ofResult placed

/-- No two results have the same report. -/
theorem json_injective (placed : result.Placed) (otherPlaced : other.Placed)
    (same : json result = json other) : result = other := by
  have sameText : (ofResult result).pretty.toList = (ofResult other).pretty.toList := by
    have whole := congrArg String.toList same
    rw [json, json, String.toList_append, String.toList_append] at whole
    exact List.append_cancel_right whole
  have first := lossless_pretty placed
  have second := lossless_pretty otherPlaced
  rw [sameText] at first
  have sameValue := Option.some.inj (first.decoded.symm.trans second.decoded)
  exact Option.some.inj (first.read.symm.trans (sameValue ▸ second.read))

end Report

/-- The report of a result that a check can return is a document and a line feed, and from the
document the result can be read again.  So no other result has the same report. -/
theorem report_lossless {result : CheckResult} (returned : result.Returned) :
    (∃ document value, (Report.json result).toList = document ++ ['\n'] ∧
      Report.Lossless document value result) ∧
    ∀ other : CheckResult, other.Returned → Report.json result = Report.json other →
      result = other :=
  ⟨⟨_, _, String.toList_append, Report.lossless_pretty returned.placed⟩,
    fun _ otherReturned same => Report.json_injective returned.placed otherReturned.placed same⟩

theorem report_lossless_pair :
    let result := Check.verdict ScriptTree.lenient ScriptTree.pair.files "/app" .empty 0
      { files := ScriptTree.pair.sources }
    result.Returned ∧ ∃ document value, (Report.json result).toList = document ++ ['\n'] ∧
      Report.Lossless document value result := by
  have returned := CheckResult.Returned.tree (ScriptTree.pair_succeeds .empty 0)
  exact ⟨returned, (report_lossless returned).1⟩

end EnvAudit
