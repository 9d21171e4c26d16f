import EnvAudit.Report.Format
import Mathlib.Data.Option.Basic
import Mathlib.Logic.IsEmpty.Basic

/-!
# Reports that break off

The report for programs is not written to its end if a path in it is no text.  What is there
then is a beginning of the report: the writing stops before the path.
-/

namespace EnvAudit

/-- The text breaks off: it is a beginning of the whole, and something is left. -/
def BreaksOff (begun whole : List Char) : Prop :=
  ∃ rest, rest ≠ [] ∧ begun ++ rest = whole

namespace BreaksOff

variable {begun whole : List Char}

theorem prepend (opening : List Char) (breaks : BreaksOff begun whole) :
    BreaksOff (opening ++ begun) (opening ++ whole) := by
  obtain ⟨rest, nonempty, rfl⟩ := breaks
  exact ⟨rest, nonempty, by rw [List.append_assoc]⟩

theorem append (breaks : BreaksOff begun whole) (behind : List Char) :
    BreaksOff begun (whole ++ behind) := by
  obtain ⟨rest, nonempty, rfl⟩ := breaks
  exact ⟨rest ++ behind, by simp [nonempty], by rw [List.append_assoc]⟩

end BreaksOff

namespace Json

variable {stops : String → Json → Bool}

theorem write_ne_nil (level : Nat) (value : Json) : write level value ≠ [] := by
  cases value with
  | boolean value => cases value <;> simp [write]
  | natural value => exact Nat.toDigits_ne_nil
  | text value => simp [write, encodeText]
  | list items => cases items <;> simp [write]
  | object fields =>
      cases fields with
      | nil => simp [write]
      | cons field fields =>
          obtain ⟨name, value⟩ := field
          simp [write]

/-- If a part and what is behind it break off where they are begun, so does the whole. -/
theorem breaksOff_begunBehind {opening text whole begun : List Char}
    {part further : Option (List Char)}
    (inside : ∀ begun, part = some begun → BreaksOff begun text)
    (behind : ∀ begun, further = some begun → BreaksOff begun whole)
    (known : begunBehind opening part text further = some begun) :
    BreaksOff begun (opening ++ text ++ whole) := by
  cases part with
  | some inner =>
      cases known
      exact ((inside inner rfl).prepend opening).append whole
  | none =>
      obtain ⟨inner, found, rfl⟩ := Option.map_eq_some_iff.mp known
      exact (behind inner found).prepend (opening ++ text)

/-- The writing of a field breaks off if it stops there or in the value. -/
theorem breaksOff_field {name : String} {value : Json} {level : Nat} {begun : List Char}
    (inside : begun? stops level value = some begun → BreaksOff begun (write level value))
    (known : (if stops name value then some [] else begun? stops level value) = some begun) :
    BreaksOff begun (write level value) := by
  split at known
  · cases known
    exact ⟨_, write_ne_nil level value, rfl⟩
  · exact inside known

mutual

/-- The writing of a value breaks off where it stops. -/
theorem breaksOff_begun? {level : Nat} {begun : List Char} :
    (value : Json) → begun? stops level value = some begun → BreaksOff begun (write level value)
  | .boolean _, known | .natural _, known | .text _, known | .list [], known
  | .object [], known => by
      rw [begun?] at known
      cases known
  | .list (item :: items), known => by
      rw [begun?] at known
      have breaks := breaksOff_begunBehind (fun _ => breaksOff_begun? item)
        (fun _ => breaksOff_begunItems? items) known
      simpa [write] using breaks.append (newLine level ++ [']'])
  | .object ((name, value) :: fields), known => by
      rw [begun?] at known
      have breaks := breaksOff_begunBehind (fun _ => breaksOff_field (breaksOff_begun? value))
        (fun _ => breaksOff_begunFields? fields) known
      simpa [write] using breaks.append (newLine level ++ ['\x7d'])

/-- The writing of items breaks off where it stops. -/
theorem breaksOff_begunItems? {level : Nat} {begun : List Char} :
    (items : List Json) → begunItems? stops level items = some begun →
      BreaksOff begun (writeItems level items)
  | [], known => by
      rw [begunItems?] at known
      cases known
  | item :: items, known => by
      rw [begunItems?] at known
      have breaks := breaksOff_begunBehind (fun _ => breaksOff_begun? item)
        (fun _ => breaksOff_begunItems? items) known
      simpa [writeItems] using breaks

/-- The writing of fields breaks off where it stops. -/
theorem breaksOff_begunFields? {level : Nat} {begun : List Char} :
    (fields : List (String × Json)) → begunFields? stops level fields = some begun →
      BreaksOff begun (writeFields level fields)
  | [], known => by
      rw [begunFields?] at known
      cases known
  | (name, value) :: fields, known => by
      rw [begunFields?] at known
      have breaks := breaksOff_begunBehind (fun _ => breaksOff_field (breaksOff_begun? value))
        (fun _ => breaksOff_begunFields? fields) known
      simpa [writeFields] using breaks

end

section Finished

variable {level : Nat}

theorem begunBehind_eq_none_iff {opening text : List Char} {part further : Option (List Char)} :
    begunBehind opening part text further = none ↔ part = none ∧ further = none := by
  cases part <;> simp [begunBehind]

theorem begunItems?_eq_none_iff {items : List Json} :
    begunItems? stops level items = none ↔ ∀ item ∈ items, begun? stops level item = none := by
  induction items with
  | nil => simp [begunItems?]
  | cons item items ih => rw [begunItems?, begunBehind_eq_none_iff, ih, List.forall_mem_cons]

/-- The writing does not stop at the field or in it. -/
def Finishes (stops : String → Json → Bool) (level : Nat) (field : String × Json) : Prop :=
  stops field.1 field.2 = false ∧ begun? stops level field.2 = none

theorem field_eq_none_iff {name : String} {value : Json} :
    (if stops name value then some [] else begun? stops level value) = none ↔
      Finishes stops level (name, value) := by
  cases known : stops name value <;> simp [Finishes, known]

theorem begunFields?_eq_none_iff {fields : List (String × Json)} :
    begunFields? stops level fields = none ↔ ∀ field ∈ fields, Finishes stops level field := by
  induction fields with
  | nil => simp [begunFields?]
  | cons field fields ih =>
      obtain ⟨name, value⟩ := field
      rw [begunFields?, begunBehind_eq_none_iff, field_eq_none_iff, ih, List.forall_mem_cons]

@[simp]
theorem begun?_text (text : String) : begun? stops level (.text text) = none := by
  rw [begun?]

@[simp]
theorem begun?_natural (value : Nat) : begun? stops level (.natural value) = none := by
  rw [begun?]

@[simp]
theorem begun?_boolean (value : Bool) : begun? stops level (.boolean value) = none := by
  rw [begun?]

/-- The writing of a list is finished if that of its items is. -/
theorem begun?_list_eq_none_iff {items : List Json} :
    begun? stops level (.list items) = none ↔
      ∀ item ∈ items, begun? stops (level + 1) item = none := by
  cases items with
  | nil => simp [begun?]
  | cons item items =>
      rw [begun?, begunBehind_eq_none_iff, begunItems?_eq_none_iff, List.forall_mem_cons]

/-- The writing of an object is finished if that of its fields is. -/
theorem begun?_object_eq_none_iff {fields : List (String × Json)} :
    begun? stops level (.object fields) = none ↔
      ∀ field ∈ fields, Finishes stops (level + 1) field := by
  cases fields with
  | nil => simp [begun?]
  | cons field fields =>
      obtain ⟨name, value⟩ := field
      rw [begun?, begunBehind_eq_none_iff, field_eq_none_iff, begunFields?_eq_none_iff,
        List.forall_mem_cons]

end Finished

end Json

namespace Report

variable {isText : String → Bool} {result : CheckResult}

/-- The paths in a report. -/
def paths (result : CheckResult) : List String :=
  result.root.toList ++ result.firstSeen.filterMap (·.2.file) ++ result.skipped.map (·.path)

/-- The report can be written to its end: people see any path, but one for programs needs all
paths in it to be texts. -/
def Writable (isText : String → Bool) (format : ReportFormat) (result : CheckResult) : Prop :=
  format = .json → ∀ path ∈ paths result, isText path = true

theorem finishes_path {level : Nat} {name path : String} (isPath : name ∈ pathFields) :
    Json.Finishes (isGarbled isText) level (name, .text path) ↔ isText path = true := by
  simp [Json.Finishes, isGarbled, isPath]

/-- A field that holds no text is finished if its value is. -/
theorem finishes_iff {level : Nat} {name : String} {value : Json}
    (other : isGarbled isText name value = false) :
    Json.Finishes (isGarbled isText) level (name, value) ↔
      Json.begun? (isGarbled isText) level value = none := by
  simp [Json.Finishes, other]

theorem begun?_texts {level : Nat} (texts : List String) :
    Json.begun? (isGarbled isText) level (.list (texts.map .text)) = none := by
  simp [Json.begun?_list_eq_none_iff]

theorem begun?_ofLocation {level : Nat} {location : Location} :
    Json.begun? (isGarbled isText) level (ofLocation location) = none ↔
      ∀ file, location.file = some file → isText file = true := by
  have numbers (name : String) (value : Nat) :
      Json.Finishes (isGarbled isText) (level + 1) (name, .natural value) := by
    simp [Json.Finishes, isGarbled]
  have path : "file" ∈ pathFields := by decide
  rw [ofLocation, Json.begun?_object_eq_none_iff]
  cases location.file <;> simp [numbers, finishes_path path]

theorem begun?_ofSkipped {level : Nat} {file : SkippedFile} :
    Json.begun? (isGarbled isText) level (ofSkipped file) = none ↔ isText file.path = true := by
  have reason : Json.Finishes (isGarbled isText) (level + 1) ("reason", .text file.reason) := by
    simp [Json.Finishes, isGarbled, pathFields]
  have path : "path" ∈ pathFields := by decide
  rw [ofSkipped, Json.begun?_object_eq_none_iff]
  simp [reason, finishes_path path]

theorem begun?_ofStatistics {level : Nat} (statistics : Statistics) :
    Json.begun? (isGarbled isText) level (ofStatistics statistics) = none := by
  simp [ofStatistics, Json.begun?_object_eq_none_iff, Json.Finishes, isGarbled]

theorem begun?_places {level : Nat} :
    Json.begun? (isGarbled isText) level (.object ((sortedPlaces result).map
      fun (name, location) => (name, ofLocation location))) = none ↔
      ∀ path ∈ result.firstSeen.filterMap (·.2.file), isText path = true := by
  have sorted (entry : String × Location) :
      entry ∈ sortedPlaces result ↔ entry ∈ result.firstSeen :=
    (List.mergeSort_perm result.firstSeen _).mem_iff
  have finishes (entry : String × Location) :
      Json.Finishes (isGarbled isText) (level + 1) (entry.1, ofLocation entry.2) ↔
        ∀ file, entry.2.file = some file → isText file = true :=
    (finishes_iff rfl).trans begun?_ofLocation
  rw [Json.begun?_object_eq_none_iff, List.forall_mem_map]
  simp only [sorted, finishes, List.mem_filterMap, forall_exists_index, and_imp]
  exact ⟨fun all path entry member file => all entry member path file,
    fun all entry member file place => all file entry member place⟩

/-- The report for programs is finished just if all paths in it are texts. -/
theorem begunJson?_eq_none_iff :
    begunJson? isText result = none ↔ ∀ path ∈ paths result, isText path = true := by
  have root : (∀ field ∈ result.root.toList.map fun root => ("root", Json.text root),
      Json.Finishes (isGarbled isText) 1 field) ↔
      ∀ path ∈ result.root.toList, isText path = true := by
    simp only [List.forall_mem_map, finishes_path (show "root" ∈ pathFields by decide)]
  have skipped : (∀ field ∈ (if result.skipped.isEmpty then [] else
      [("skipped", Json.list (result.skipped.map ofSkipped))]),
      Json.Finishes (isGarbled isText) 1 field) ↔
      ∀ path ∈ result.skipped.map (·.path), isText path = true := by
    have records : Json.Finishes (isGarbled isText) 1
        ("skipped", .list (result.skipped.map ofSkipped)) ↔
        ∀ file ∈ result.skipped, isText file.path = true := by
      refine (finishes_iff rfl).trans ?_
      simp only [Json.begun?_list_eq_none_iff, List.forall_mem_map, begun?_ofSkipped]
    rw [List.forall_mem_map, ← records]
    cases result.skipped <;> simp [Json.Finishes, isGarbled, Json.begun?]
  have found : Json.Finishes (isGarbled isText) 1 ("found", .list (result.found.map .text)) :=
    (finishes_iff rfl).mpr (begun?_texts result.found)
  have missing : Json.Finishes (isGarbled isText) 1
      ("missing", .list (result.missing.map .text)) :=
    (finishes_iff rfl).mpr (begun?_texts result.missing)
  have isComplete : Json.Finishes (isGarbled isText) 1 ("isComplete", .boolean result.isComplete) :=
    (finishes_iff rfl).mpr (Json.begun?_boolean _)
  have statistics : Json.Finishes (isGarbled isText) 1 ("stats", ofStatistics result.statistics) :=
    (finishes_iff rfl).mpr (begun?_ofStatistics _)
  have places : Json.Finishes (isGarbled isText) 1 ("firstSeen", .object ((sortedPlaces result).map
      fun (name, location) => (name, ofLocation location))) ↔
      ∀ path ∈ result.firstSeen.filterMap (·.2.file), isText path = true :=
    (finishes_iff rfl).trans begun?_places
  rw [begunJson?, Option.map_eq_none_iff, ofResult, Json.begun?_object_eq_none_iff, paths]
  simp only [List.forall_mem_append, List.forall_mem_cons, List.not_mem_nil, IsEmpty.forall_iff,
    implies_true, Nat.zero_add, root, skipped, found, missing, isComplete, statistics, places,
    true_and, and_true]

theorem begunJson?_of_writable (writable : Writable isText .json result) :
    begunJson? isText result = none :=
  begunJson?_eq_none_iff.mpr (writable rfl)

theorem begunJson?_of_not_writable (unwritable : ¬ Writable isText .json result) :
    ∃ begun, begunJson? isText result = some begun := by
  refine Option.ne_none_iff_exists'.mp fun finished => unwritable fun _ => ?_
  exact begunJson?_eq_none_iff.mp finished

/-- A report that is not finished breaks off. -/
theorem breaksOff_begunJson? {begun : String} (known : begunJson? isText result = some begun) :
    BreaksOff begun.toList (json result).toList := by
  obtain ⟨chars, stopped, rfl⟩ := Option.map_eq_some_iff.mp known
  have breaks := Json.breaksOff_begun? (ofResult result) stopped
  simpa [json, Json.pretty] using breaks.append ['\n']

end Report

end EnvAudit
