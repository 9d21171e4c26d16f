import EnvAudit.Proofs.CommandLine.Reading
import Mathlib.Data.List.TakeWhile

/-!
# What arguments tell

Arguments that spell out parameters, each with its value attached, are taken in one after the
other.  The line then has the last value of a parameter that takes one, and all values of a
parameter that takes more.
-/

namespace EnvAudit

namespace CommandLine

/-- A parameter where it is given, with its value if it takes one. -/
inductive Occurrence where
  | flag (flag : Flag)
  | slot (slot : Slot) (value : String)
  deriving DecidableEq

namespace Occurrence

def parameter : Occurrence → Parameter
  | flag chosen => .flag chosen
  | slot chosen _ => .slot chosen

/-- The arguments that give a parameter.  A value is attached to the name of its parameter, and
a path stands behind two dashes. -/
def arguments : Occurrence → List String
  | flag chosen => ["--" ++ chosen.long]
  | slot chosen value =>
      match chosen.long? with
      | some long => ["--" ++ long ++ "=" ++ value]
      | none => ["--", value]

/-- The value, if it is given to the slot that is wanted. -/
def value? (wanted : Slot) : Occurrence → Option String
  | flag _ => none
  | slot chosen value => if chosen = wanted then some value else none

/-- A line after a parameter has been given. -/
def set (line : CommandLine) : Occurrence → Except Refusal CommandLine
  | flag chosen => line.setFlag chosen
  | slot chosen value => line.setSlot value chosen

/-- A line takes in the parameter with its value, whatever it says. -/
def Sound (occurrence : Occurrence) : Prop :=
  ∀ line, ∃ after, occurrence.set line = .ok after

/-- Two parameters may be given in one line. -/
def Compatible (first second : Occurrence) : Prop :=
  first.parameter = second.parameter → first.parameter.isRepeatable = true

theorem Compatible.symm {first second : Occurrence} (compatible : first.Compatible second) :
    second.Compatible first :=
  fun same => same ▸ compatible same.symm

end Occurrence

/-- The values that are given to a slot, in order. -/
def values (slot : Slot) (given : List Occurrence) : List String :=
  given.filterMap (Occurrence.value? slot)

@[simp]
theorem values_nil (slot : Slot) : values slot [] = [] :=
  rfl

@[simp]
theorem values_append (slot : Slot) (first second : List Occurrence) :
    values slot (first ++ second) = values slot first ++ values slot second :=
  List.filterMap_append

@[simp]
theorem values_flag (slot : Slot) (flag : Flag) : values slot [.flag flag] = [] :=
  rfl

@[simp]
theorem values_slot (wanted slot : Slot) (value : String) :
    values wanted [.slot slot value] = if slot = wanted then [value] else [] := by
  by_cases same : slot = wanted <;> simp [values, Occurrence.value?, same]

@[simp]
theorem values_map (wanted slot : Slot) (given : List String) :
    values wanted (given.map (.slot slot)) = if slot = wanted then given else [] := by
  by_cases same : slot = wanted
  · simp [values, List.filterMap_map, Function.comp_def, Occurrence.value?, same]
  · simp [values, List.filterMap_map, Function.comp_def, Occurrence.value?, same]

/-- The line that says what is given, and no more. -/
def told (given : List Occurrence) : CommandLine where
  path := (values .path given).getLast?
  envFile := (values .envFile given).getLast?
  noEnvFile := decide (.flag .noEnvFile ∈ given)
  format :=
    ((values .format given).getLast?.bind fun name => (formatOfName name).toOption).getD .human
  ignore := values .ignore given
  ext :=
    if values .ext given = [] then none else some ((values .ext given).flatMap (Text.split ','))
  emptyIsSet := decide (.flag .emptyIsSet ∈ given)
  skipUnparsable := decide (.flag .skipUnparsable ∈ given)
  config := (values .config given).getLast?
  verbose := decide (.flag .verbose ∈ given)

section Told

variable {given : List Occurrence} {line : CommandLine}

theorem setFlag_told {flag : Flag} (set : (told given).setFlag flag = .ok line) :
    line = told (given ++ [.flag flag]) := by
  cases flag <;> cases set <;> simp [told]

theorem setSlot_told {slot : Slot} {value : String}
    (set : (told given).setSlot value slot = .ok line) :
    line = told (given ++ [.slot slot value]) := by
  cases slot with
  | envFile | ignore =>
      cases set
      simp [told]
  | ext =>
      cases set
      by_cases first : values .ext given = [] <;> simp [told, first]
  | path | config =>
      simp only [setSlot] at set
      split at set
      · cases set
      · cases set
        simp [told]
  | format =>
      rw [setSlot] at set
      cases known : formatOfName value with
      | error refusal =>
          rw [known] at set
          cases set
      | ok format =>
          rw [known] at set
          cases set
          simp [told, known, Except.toOption]

/-- What is given next is said besides. -/
theorem set_told {occurrence : Occurrence} (set : occurrence.set (told given) = .ok line) :
    line = told (given ++ [occurrence]) := by
  cases occurrence with
  | flag flag => exact setFlag_told set
  | slot slot value => exact setSlot_told set

end Told

namespace Progress

variable {progress after : Progress} {given before : List Occurrence} {occurrence : Occurrence}
variable {slot : Slot} {flag : Flag} {name value : String} {line : CommandLine}

theorem splitName_of_free {letters : List Char} (free : '=' ∉ letters) :
    splitName letters = (letters, none) := by
  have none : letters.dropWhile (· != '=') = [] := by
    refine List.dropWhile_eq_nil_iff.mpr fun c member => ?_
    have different : c ≠ '=' := fun same => free (same ▸ member)
    simpa using different
  rw [splitName, none]

theorem splitName_append {letters : List Char} (free : '=' ∉ letters) (value : List Char) :
    splitName (letters ++ '=' :: value) = (letters, some value) := by
  have passes : ∀ c ∈ letters, (c != '=') = true := by
    intro c member
    have different : c ≠ '=' := fun same => free (same ▸ member)
    simpa using different
  rw [splitName, List.dropWhile_append_of_pos passes, List.takeWhile_append_of_pos passes]
  simp

/-- Names hold no equals sign. -/
theorem free_of_long? {parameter : Parameter} (long : parameter.long? = some name) :
    '=' ∉ name.toList := by
  rcases parameter with chosen | chosen
  · cases chosen <;> cases long <;> decide
  · cases chosen <;> cases long <;> decide

theorem readArgument_flag (progress : Progress) (flag : Flag) :
    progress.readArgument ("--" ++ flag.long) = progress.readFlag flag := by
  have long : (Parameter.flag flag).long? = some flag.long := rfl
  have letters : ("--" ++ flag.long).toList = '-' :: '-' :: flag.long.toList := by
    rw [String.toList_append]
    rfl
  rw [readArgument, letters]
  simp only [splitName_of_free (free_of_long? long), String.ofList_toList, Option.map_none]
  rw [readLong, Parameter.ofLong?_long long]

theorem readArgument_slot (progress : Progress) (long : slot.long? = some name) (value : String) :
    progress.readArgument ("--" ++ name ++ "=" ++ value) = progress.readSlot slot (some value) := by
  have isLong : (Parameter.slot slot).long? = some name := long
  have letters : ("--" ++ name ++ "=" ++ value).toList =
      '-' :: '-' :: (name.toList ++ '=' :: value.toList) := by
    simp [String.toList_append]
  rw [readArgument, letters]
  simp only [splitName_append (free_of_long? isLong), String.ofList_toList, Option.map_some]
  rw [readLong, Parameter.ofLong?_long isLong]

/-- Takes in a parameter with its value, if it takes one. -/
def add (progress : Progress) : Occurrence → Except Refusal Progress
  | .flag flag => progress.addFlag flag
  | .slot slot value => progress.addSlot slot value

/-- A progress has taken in what is given. -/
structure Took (given : List Occurrence) (progress : Progress) : Prop where
  line : progress.line = told given
  used : ∀ parameter, parameter ∈ progress.used ↔
    ∃ occurrence ∈ given, occurrence.parameter = parameter
  settled : progress.pending = none

namespace Took

theorem nil : Took [] {} where
  line := rfl
  used parameter := by simp
  settled := rfl

theorem settle (took : Took given progress) : progress.settle = .ok progress := by
  rw [Progress.settle, took.settled]

/-- What may be given next is taken in. -/
theorem add (took : Took given progress) (sound : occurrence.Sound)
    (compatible : ∀ other ∈ given, other.Compatible occurrence) :
    ∃ after, progress.add occurrence = .ok after ∧ Took (given ++ [occurrence]) after := by
  obtain ⟨line, set⟩ := sound progress.line
  have repeatable (member : occurrence.parameter ∈ progress.used) :
      occurrence.parameter.isRepeatable = true := by
    obtain ⟨other, inGiven, same⟩ := (took.used _).mp member
    exact same ▸ compatible other inGiven same
  refine ⟨{ progress with line, used := addTo progress.used occurrence.parameter }, ?_, ?_⟩
  · cases occurrence with
    | flag flag =>
        have unused : ¬ progress.used.contains (.flag flag) = true := by
          intro contained
          cases repeatable (List.contains_iff_mem.mp contained)
        have set : progress.line.setFlag flag = .ok line := set
        simp only [Progress.add, Progress.addFlag, if_neg unused, set]
        rfl
    | slot slot value =>
        have allowed : ¬ (progress.used.contains (.slot slot) && !slot.isRepeatable) = true := by
          intro blocked
          obtain ⟨contained, once⟩ := Bool.and_eq_true_iff.mp blocked
          have again : slot.isRepeatable = true := repeatable (List.contains_iff_mem.mp contained)
          rw [again] at once
          cases once
        have set : progress.line.setSlot value slot = .ok line := set
        simp only [Progress.add, Progress.addSlot, if_neg allowed, set]
        rfl
  · rw [took.line] at set
    refine ⟨set_told set, fun parameter => ?_, took.settled⟩
    rw [mem_addTo, took.used]
    simp [List.mem_append, or_and_right, exists_or, eq_comm]

/-- A parameter with a name is read in one argument. -/
theorem readArguments_append (took : Took given progress)
    (named : occurrence.parameter ≠ .slot .path) (rest : List String) :
    progress.readArguments (occurrence.arguments ++ rest) = (do
      let after ← progress.add occurrence
      after.readArguments rest) := by
  have once (argument : String) (different : argument ≠ "--") :
      progress.readArguments ([argument] ++ rest) = (do
        let after ← progress.readArgument argument
        after.readArguments rest) := by
    rw [List.singleton_append, Progress.readArguments, if_neg different]
  cases occurrence with
  | flag flag =>
      have different : "--" ++ flag.long ≠ "--" := by
        cases flag <;> decide
      rw [Occurrence.arguments, once _ different, readArgument_flag, Progress.readFlag, took.settle]
      rfl
  | slot slot value =>
      cases long : slot.long? with
      | none =>
          cases slot with
          | path => exact absurd rfl named
          | envFile | format | ignore | ext | config => cases long
      | some name =>
          have different : "--" ++ name ++ "=" ++ value ≠ "--" := by
            intro same
            have lengths := congrArg String.length same
            simp only [String.length_append] at lengths
            have two : "--".length = 2 := by decide
            have one : "=".length = 1 := by decide
            omega
          rw [Occurrence.arguments, long]
          simp only
          rw [once _ different, readArgument_slot progress long, Progress.readSlot, took.settle]
          rfl

/-- Parameters that may be given together are all taken in. -/
theorem readArguments_flatMap {before given : List Occurrence} {progress : Progress}
    (took : Took before progress) (sound : ∀ occurrence ∈ given, occurrence.Sound)
    (compatible : (before ++ given).Pairwise Occurrence.Compatible)
    (named : ∀ occurrence ∈ given, occurrence.parameter ≠ .slot .path) (rest : List String) :
    ∃ after, progress.readArguments (given.flatMap Occurrence.arguments ++ rest) =
        after.readArguments rest ∧ Took (before ++ given) after := by
  induction given generalizing before progress with
  | nil => exact ⟨progress, rfl, by simpa using took⟩
  | cons occurrence given ih =>
      obtain ⟨firstSound, sound⟩ := List.forall_mem_cons.mp sound
      obtain ⟨firstNamed, named⟩ := List.forall_mem_cons.mp named
      have whole : before ++ occurrence :: given = (before ++ [occurrence]) ++ given := by simp
      rw [whole] at compatible ⊢
      have withFirst : ∀ other ∈ before, other.Compatible occurrence := by
        have start := (List.pairwise_append.mp compatible).1
        exact fun other member =>
          (List.pairwise_append.mp start).2.2 other member occurrence (by simp)
      obtain ⟨middle, added, tookFirst⟩ := took.add firstSound withFirst
      obtain ⟨after, read, tookAll⟩ := ih tookFirst sound compatible named
      refine ⟨after, ?_, tookAll⟩
      rw [List.flatMap_cons, List.append_assoc, took.readArguments_append firstNamed, added]
      exact read

/-- What has been taken in is the line, unless parameters exclude each other. -/
theorem finish (took : Took given progress) : progress.finish =
    match conflict? progress.used with
    | some (former, latter) => .error (.conflict former latter (progress.used.erase latter))
    | none => .ok (told given) := by
  rw [Progress.finish, took.settle]
  simp only [bind, Except.bind, pure, Except.pure, took.line]
  rfl

/-- A path behind two dashes is taken in at the end. -/
theorem read_path (took : Took given progress) (sound : (Occurrence.slot .path value).Sound)
    (compatible : ∀ other ∈ given, other.Compatible (.slot .path value)) :
    ∃ middle after, progress.readArguments ["--", value] = .ok middle ∧
      middle.finish = after.finish ∧ Took (given ++ [.slot .path value]) after := by
  obtain ⟨after, added, tookAll⟩ := took.add sound compatible
  have unused : .slot .path ∉ progress.used := by
    intro member
    obtain ⟨other, inGiven, same⟩ := (took.used _).mp member
    have again := compatible other inGiven same
    rw [same] at again
    cases again
  have noPath : progress.hasPath = false := by
    rw [hasPath, took.settled]
    simpa using unused
  have same : { progress with pending := none } = progress := by
    rw [← took.settled]
  refine ⟨{ progress with pending := some (.path, some value) }, after, ?_, ?_, tookAll⟩
  · rw [Progress.readArguments, if_pos rfl, List.foldlM_cons, readPath, noPath, took.settle]
    rfl
  · have settles : ({ progress with pending := some (.path, some value) } : Progress).settle =
        .ok after := by
      rw [Progress.settle]
      simp only [same]
      exact added
    rw [Progress.finish, Progress.finish, settles, tookAll.settle]

end Took

section Conflicts

variable {used : List Parameter}

/-- Only the name of an environment file and the wish for none exclude each other. -/
theorem conflict?_eq_none_iff : conflict? used = none ↔
    ¬ (.slot .envFile ∈ used ∧ .flag .noEnvFile ∈ used) := by
  constructor
  · rintro free ⟨envFile, noEnvFile⟩
    exact excluded_of_conflict? free (by decide) envFile noEnvFile
  · intro apart
    refine List.findSome?_eq_none_iff.mpr fun parameter isUsed => ?_
    refine List.find?_eq_none.mpr fun pair excluding bothUsed => apart ?_
    simp only [Bool.and_eq_true, beq_iff_eq, List.contains_iff_mem] at bothUsed
    obtain ⟨rfl, latterUsed⟩ := bothUsed
    simp only [exclusions, List.mem_cons, List.not_mem_nil, or_false] at excluding
    rcases excluding with rfl | rfl
    · exact ⟨isUsed, latterUsed⟩
    · exact ⟨latterUsed, isUsed⟩

theorem mem_exclusions_of_conflict? {pair : Parameter × Parameter}
    (conflict : conflict? used = some pair) : pair ∈ exclusions := by
  obtain ⟨parameter, _, found⟩ := List.exists_of_findSome?_eq_some conflict
  exact List.mem_of_find?_eq_some found

end Conflicts

end Progress

/-- Arguments are read as the line that says what they give, unless parameters exclude each
other. -/
theorem parse_flatMap {given : List Occurrence} (path : Option String)
    (named : ∀ occurrence ∈ given, occurrence.parameter ≠ .slot .path)
    {all : List Occurrence} (whole : given ++ path.toList.map (.slot .path) = all)
    (sound : ∀ occurrence ∈ all, occurrence.Sound)
    (compatible : all.Pairwise Occurrence.Compatible) :
    ∃ used : List Parameter,
      (∀ parameter, parameter ∈ used ↔ ∃ occurrence ∈ all, occurrence.parameter = parameter) ∧
      parse (all.flatMap Occurrence.arguments) =
        match Progress.conflict? used with
        | some (former, latter) => .error (.conflict former latter (used.erase latter))
        | none => .ok (told all) := by
  subst whole
  rw [List.forall_mem_append] at sound
  obtain ⟨compatibleGiven, _, withPath⟩ := List.pairwise_append.mp compatible
  rw [List.flatMap_append, parse]
  cases path with
  | none =>
      obtain ⟨after, read, took⟩ := Progress.Took.nil.readArguments_flatMap sound.1
        compatibleGiven named []
      refine ⟨after.used, by simpa using took.used, ?_⟩
      rw [Option.toList_none, List.map_nil, List.flatMap_nil, read, List.append_nil]
      exact took.finish
  | some value =>
      obtain ⟨before, read, took⟩ := Progress.Took.nil.readArguments_flatMap sound.1
        compatibleGiven named ["--", value]
      have last : .slot .path value ∈ (some value).toList.map (Occurrence.slot .path) := by simp
      obtain ⟨middle, after, pathRead, finished, tookAll⟩ := took.read_path (sound.2 _ last)
        fun other member => withPath other member _ last
      refine ⟨after.used, tookAll.used, ?_⟩
      have arguments : ([value].map (Occurrence.slot .path)).flatMap Occurrence.arguments =
          ["--", value] := rfl
      rw [Option.toList_some, arguments, read, pathRead]
      exact finished.trans tookAll.finish

end CommandLine

end EnvAudit
