import EnvAudit.Proofs.CommandLine.Telling
import EnvAudit.Proofs.Text.Parts
import Mathlib.Data.List.Perm.Basic

/-!
# Writing a command line

Whatever a line says can be written as arguments: its options in any order, each value attached
to the name of its parameter, and then the path behind two dashes.  The arguments are read as the
line, and it changes just the settings that they name.
-/

namespace EnvAudit

namespace CommandLine

/-- The name of a format. -/
def formatName : ReportFormat → String
  | .human => "human"
  | .json => "json"

theorem formatOfName_formatName (format : ReportFormat) :
    formatOfName (formatName format) = .ok format := by
  cases format <;> rfl

/-- The values that a line has for a slot.  Extensions are joined by commas. -/
def valuesOf (line : CommandLine) : Slot → List String
  | .path => line.path.toList
  | .envFile => line.envFile.toList
  | .format => [formatName line.format]
  | .ignore => line.ignore
  | .ext => (line.ext.map ",".intercalate).toList
  | .config => line.config.toList

/-- A line has a flag. -/
def hasFlag (line : CommandLine) : Flag → Bool
  | .noEnvFile => line.noEnvFile
  | .emptyIsSet => line.emptyIsSet
  | .skipUnparsable => line.skipUnparsable
  | .verbose => line.verbose
  | .help | .version => false

/-- How a line gives a parameter. -/
def occurrences (line : CommandLine) : Parameter → List Occurrence
  | .flag flag => if line.hasFlag flag then [.flag flag] else []
  | .slot slot => (line.valuesOf slot).map (.slot slot)

/-- What a line gives by name. -/
def options (line : CommandLine) : List Occurrence :=
  Parameter.named.flatMap line.occurrences

/-- The arguments that give options and then the path of a line. -/
def arguments (line : CommandLine) (given : List Occurrence) : List String :=
  (given ++ line.occurrences (.slot .path)).flatMap Occurrence.arguments

/-- The options of a line are given in some order, but patterns in theirs.  The usual format need
not be given. -/
structure Written (line : CommandLine) (given : List Occurrence) : Prop where
  options : given.Perm line.options ∨
    line.format = .human ∧ (.slot .format "human" :: given).Perm line.options
  patterns : values .ignore given = line.ignore

/-- What a line has to be like to be written. -/
structure Expressible (line : CommandLine) : Prop where
  path : line.path ≠ some ""
  config : line.config ≠ some ""
  ext : ∀ extensions, line.ext = some extensions →
    extensions ≠ [] ∧ ∀ extension ∈ extensions, ',' ∉ extension.toList

/-- A line names an environment file and asks for none. -/
def Contradictory (line : CommandLine) : Prop :=
  line.envFile.isSome = true ∧ line.noEnvFile = true

variable {line : CommandLine} {given : List Occurrence} {slot : Slot} {flag : Flag}
variable {parameter : Parameter} {occurrence : Occurrence}

/-- Extensions are found again between the commas. -/
theorem split_intercalate {extensions : List String} (expressible : line.Expressible)
    (known : line.ext = some extensions) :
    Text.split ',' (",".intercalate extensions) = extensions :=
  Text.split_eq_iff.mpr ⟨(expressible.ext _ known).1, (expressible.ext _ known).2, rfl⟩

theorem mem_values {value : String} : value ∈ values slot given ↔ .slot slot value ∈ given := by
  rw [values, List.mem_filterMap]
  constructor
  · rintro ⟨occurrence, member, isValue⟩
    cases occurrence with
    | flag flag => cases isValue
    | slot chosen other =>
        simp only [Occurrence.value?] at isValue
        split at isValue
        · rename_i same
          cases isValue
          exact same ▸ member
        · cases isValue
  · exact fun member => ⟨_, member, by simp [Occurrence.value?]⟩

theorem parameter_of_mem (member : occurrence ∈ line.occurrences parameter) :
    occurrence.parameter = parameter := by
  cases parameter with
  | flag flag =>
      rw [occurrences] at member
      split at member
      · rw [List.mem_singleton.mp member]
        rfl
      · cases member
  | slot slot =>
      obtain ⟨value, _, rfl⟩ := List.mem_map.mp member
      rfl

/-- Only patterns take more than one argument. -/
theorem valuesOf_eq_toList (line : CommandLine) (single : slot ≠ .ignore) :
    ∃ value : Option String, line.valuesOf slot = value.toList := by
  cases slot with
  | ignore => exact absurd rfl single
  | path => exact ⟨line.path, rfl⟩
  | envFile => exact ⟨line.envFile, rfl⟩
  | format => exact ⟨some (formatName line.format), rfl⟩
  | ext => exact ⟨line.ext.map ",".intercalate, rfl⟩
  | config => exact ⟨line.config, rfl⟩

theorem compatible_occurrences (line : CommandLine) (parameter : Parameter) :
    (line.occurrences parameter).Pairwise Occurrence.Compatible := by
  cases parameter with
  | flag flag =>
      rw [occurrences]
      split
      · exact List.pairwise_singleton _ _
      · exact .nil
  | slot slot =>
      by_cases isPattern : slot = .ignore
      · subst isPattern
        exact List.pairwise_map.mpr (List.pairwise_of_forall fun _ _ _ => rfl)
      · obtain ⟨value, one⟩ := valuesOf_eq_toList line isPattern
        rw [occurrences, one]
        cases value with
        | none => exact .nil
        | some value => exact List.pairwise_singleton _ _

theorem compatible_options (line : CommandLine) :
    line.options.Pairwise Occurrence.Compatible := by
  refine List.pairwise_flatMap.mpr ⟨fun parameter _ => compatible_occurrences line parameter, ?_⟩
  have distinct : Parameter.named.Pairwise (· ≠ ·) := by decide
  refine distinct.imp fun different first firstIn second secondIn same => absurd ?_ different
  rw [← parameter_of_mem firstIn, ← parameter_of_mem secondIn, same]

theorem sound_of_mem (expressible : line.Expressible)
    (member : occurrence ∈ line.occurrences parameter) : occurrence.Sound := by
  intro before
  cases parameter with
  | flag flag =>
      rw [occurrences] at member
      split at member
      · rename_i has
        obtain rfl := List.mem_singleton.mp member
        cases flag with
        | help | version => cases has
        | noEnvFile | emptyIsSet | skipUnparsable | verbose => exact ⟨_, rfl⟩
      · cases member
  | slot slot =>
      obtain ⟨value, isValue, rfl⟩ := List.mem_map.mp member
      cases slot with
      | envFile | ignore | ext => exact ⟨_, rfl⟩
      | format =>
          obtain rfl := List.mem_singleton.mp isValue
          rw [Occurrence.set, setSlot, formatOfName_formatName]
          exact ⟨_, rfl⟩
      | path =>
          have isPath : line.path = some value := Option.mem_toList.mp isValue
          have nonempty : value ≠ "" := fun empty => expressible.path (empty ▸ isPath)
          exact ⟨_, if_neg nonempty⟩
      | config =>
          have isConfig : line.config = some value := Option.mem_toList.mp isValue
          have nonempty : value ≠ "" := fun empty => expressible.config (empty ▸ isConfig)
          exact ⟨_, if_neg nonempty⟩

theorem values_occurrences (line : CommandLine) (wanted : Slot) (parameter : Parameter) :
    values wanted (line.occurrences parameter) =
      if parameter = .slot wanted then line.valuesOf wanted else [] := by
  cases parameter with
  | flag flag =>
      rw [if_neg (by simp), occurrences]
      split <;> rfl
  | slot slot =>
      rw [occurrences, values_map]
      by_cases same : slot = wanted
      · subst same
        simp
      · simp [same]

theorem values_options (line : CommandLine) (named : slot ≠ .path) :
    values slot line.options = line.valuesOf slot := by
  have each (parameters : List Parameter) : values slot (parameters.flatMap line.occurrences) =
      parameters.flatMap fun parameter => values slot (line.occurrences parameter) :=
    List.filterMap_flatMap
  rw [options, each]
  simp only [values_occurrences]
  cases slot with
  | path => exact absurd rfl named
  | envFile | format | ignore | ext | config => simp [Parameter.named]

theorem flag_mem_options : .flag flag ∈ line.options ↔ line.hasFlag flag = true := by
  rw [options, List.mem_flatMap]
  constructor
  · rintro ⟨parameter, _, member⟩
    have isFlag : Parameter.flag flag = parameter := parameter_of_mem member
    subst isFlag
    rw [occurrences] at member
    split at member
    · assumption
    · cases member
  · intro has
    refine ⟨.flag flag, ?_, ?_⟩
    · exact (Parameter.mem_named (.flag flag)).resolve_left (by simp)
    · rw [occurrences, if_pos has]
      exact List.mem_singleton_self _

namespace Written

variable (written : line.Written given)

include written

/-- Whatever is given is an option of the line. -/
theorem subset : ∀ occurrence ∈ given, occurrence ∈ line.options := by
  intro occurrence member
  rcases written.options with same | ⟨_, same⟩
  · exact same.mem_iff.mp member
  · exact same.mem_iff.mp (List.mem_cons_of_mem _ member)

theorem compatible : given.Pairwise Occurrence.Compatible := by
  have symm {first second : Occurrence} : first.Compatible second → second.Compatible first :=
    Occurrence.Compatible.symm
  rcases written.options with same | ⟨_, same⟩
  · exact (same.pairwise_iff symm).mpr (compatible_options line)
  · exact ((same.pairwise_iff symm).mpr (compatible_options line)).tail

theorem parameter_ne_path (member : occurrence ∈ given) : occurrence.parameter ≠ .slot .path := by
  obtain ⟨parameter, isNamed, inOccurrences⟩ := List.mem_flatMap.mp (written.subset _ member)
  have unnamed : Parameter.slot .path ∉ Parameter.named := by decide
  rw [parameter_of_mem inOccurrences]
  exact fun same => unnamed (same ▸ isNamed)

theorem compatible_path :
    (given ++ line.occurrences (.slot .path)).Pairwise Occurrence.Compatible := by
  refine List.pairwise_append.mpr ⟨written.compatible, compatible_occurrences line _, ?_⟩
  intro first firstIn second secondIn same
  rw [parameter_of_mem secondIn] at same
  exact absurd same (written.parameter_ne_path firstIn)

theorem sound (expressible : line.Expressible) :
    ∀ occurrence ∈ given ++ line.occurrences (.slot .path), occurrence.Sound := by
  intro occurrence member
  rcases List.mem_append.mp member with inGiven | isPath
  · obtain ⟨parameter, _, inOccurrences⟩ := List.mem_flatMap.mp (written.subset _ inGiven)
    exact sound_of_mem expressible inOccurrences
  · exact sound_of_mem expressible isPath

theorem flag_mem : .flag flag ∈ given ↔ line.hasFlag flag = true := by
  rw [← flag_mem_options]
  rcases written.options with same | ⟨_, same⟩
  · exact same.mem_iff
  · rw [← same.mem_iff, List.mem_cons]
    simp

theorem values_path : values .path given = [] := by
  rw [List.eq_nil_iff_forall_not_mem]
  intro value member
  exact written.parameter_ne_path (mem_values.mp member) rfl

/-- The values of a slot are those that the line has for it. -/
theorem values_eq (named : slot ≠ .path) (different : slot ≠ .format) :
    values slot given = line.valuesOf slot := by
  have perm : (values slot given).Perm (line.valuesOf slot) := by
    rw [← values_options line named]
    rcases written.options with same | ⟨_, same⟩
    · exact same.filterMap _
    · have skipped : values slot (.slot .format "human" :: given) = values slot given := by
        simp [values, Occurrence.value?, Ne.symm different]
      exact skipped ▸ same.filterMap _
  by_cases isPattern : slot = .ignore
  · subst isPattern
    exact written.patterns
  · obtain ⟨value, one⟩ := valuesOf_eq_toList line isPattern
    rw [one] at perm ⊢
    cases value with
    | none => exact perm.eq_nil
    | some value => exact List.perm_singleton.mp perm

/-- The format that is given, or else the usual one, is that of the line. -/
theorem format_eq : ((values .format given).getLast?.bind fun name =>
    (formatOfName name).toOption).getD .human = line.format := by
  have isName (names : List String) (perm : names.Perm [formatName line.format]) :
      (names.getLast?.bind fun name => (formatOfName name).toOption).getD .human =
        line.format := by
    rw [List.perm_singleton.mp perm]
    simp [formatOfName_formatName, Except.toOption]
  have wanted : values .format line.options = [formatName line.format] :=
    values_options line (by simp)
  rcases written.options with same | ⟨usual, same⟩
  · exact isName _ (wanted ▸ same.filterMap _)
  · -- Besides the usual name, which is left out, there is none.
    have names : (values .format (.slot .format "human" :: given)).Perm
        [formatName line.format] := wanted ▸ same.filterMap _
    have others : values .format (.slot .format "human" :: given) =
        "human" :: values .format given := by
      simp [values, Occurrence.value?]
    have none : values .format given = [] := by
      rw [others] at names
      simpa using names.length_eq
    rw [none, usual]
    rfl

/-- What is given is what the line says. -/
theorem told_eq (expressible : line.Expressible) :
    told (given ++ line.occurrences (.slot .path)) = line := by
  have last (value : Option String) : value.toList.getLast? = value := by
    cases value <;> rfl
  have others (slot : Slot) (named : slot ≠ .path) :
      values slot (given ++ line.occurrences (.slot .path)) = values slot given := by
    rw [values_append, values_occurrences, if_neg (by simpa using Ne.symm named), List.append_nil]
  have path : values .path (given ++ line.occurrences (.slot .path)) = line.path.toList := by
    rw [values_append, values_occurrences, written.values_path]
    rfl
  have ext : (if values .ext given = [] then none
      else some ((values .ext given).flatMap (Text.split ','))) = line.ext := by
    rw [written.values_eq (by simp) (by simp), valuesOf]
    cases known : line.ext with
    | none => rfl
    | some extensions =>
        simp [split_intercalate expressible known]
  have flags (flag : Flag) :
      decide (.flag flag ∈ given ++ line.occurrences (.slot .path)) = line.hasFlag flag := by
    have noFlag : .flag flag ∉ line.occurrences (.slot .path) :=
      fun member => nomatch parameter_of_mem member
    rw [Bool.eq_iff_iff, decide_eq_true_iff, List.mem_append, written.flag_mem]
    simp [noFlag]
  have envFile : (values .envFile given).getLast? = line.envFile := by
    rw [written.values_eq (by simp) (by simp)]
    exact last line.envFile
  have config : (values .config given).getLast? = line.config := by
    rw [written.values_eq (by simp) (by simp)]
    exact last line.config
  rw [told, path, last, others .envFile (by simp), envFile, others .format (by simp),
    written.format_eq, others .ignore (by simp), written.patterns, others .ext (by simp), ext,
    others .config (by simp), config, flags, flags, flags, flags]
  rfl

end Written

/-- Settings are changed just as is given. -/
structure SaidBy (overrides : Overrides) (given : List Occurrence) : Prop where
  extensions : ∀ extensions, overrides.extensions = some extensions ↔
    ∃ value, .slot .ext value ∈ given ∧ Text.split ',' value = extensions
  extraIgnore : overrides.extraIgnore = values .ignore given
  emptyIsMissing : overrides.emptyIsMissing =
    if .flag .emptyIsSet ∈ given then some false else none
  onParseError : overrides.onParseError =
    if .flag .skipUnparsable ∈ given then some .skip else none
  envFile : ∀ file, overrides.envFile = some file ↔ .slot .envFile file ∈ given
  loadEnvFile : overrides.loadEnvFile = if .flag .noEnvFile ∈ given then some false else none

theorem Written.saidBy (written : line.Written given) (expressible : line.Expressible) :
    SaidBy line.overrides given := by
  have flag {α : Type} (flag : Flag) (value : α) :
      (if line.hasFlag flag then some value else none) =
        if .flag flag ∈ given then some value else none :=
    if_congr written.flag_mem.symm rfl rfl
  have extValues : values .ext given = (line.ext.map ",".intercalate).toList :=
    written.values_eq (by simp) (by simp)
  have fileValues : values .envFile given = line.envFile.toList :=
    written.values_eq (by simp) (by simp)
  refine ⟨fun extensions => ?_, written.patterns.symm, flag .emptyIsSet false,
    flag .skipUnparsable ParseErrorPolicy.skip, fun file => ?_, flag .noEnvFile false⟩
  · simp only [← mem_values, extValues, Option.mem_toList, Option.map_eq_some_iff]
    constructor
    · intro known
      exact ⟨_, ⟨extensions, known, rfl⟩, split_intercalate expressible known⟩
    · rintro ⟨_, ⟨others, known, rfl⟩, isSplit⟩
      rw [split_intercalate expressible known] at isSplit
      exact isSplit ▸ known
  · rw [← mem_values, fileValues]
    exact Option.mem_toList.symm

/-- A line contradicts itself if both parameters that exclude each other are given. -/
theorem Written.given_both_iff (written : line.Written given) :
    ((∃ occurrence ∈ given ++ line.occurrences (.slot .path),
        occurrence.parameter = .slot .envFile) ∧
      ∃ occurrence ∈ given ++ line.occurrences (.slot .path),
        occurrence.parameter = .flag .noEnvFile) ↔ line.Contradictory := by
  have notLast {occurrence : Occurrence} (other : occurrence.parameter ≠ .slot .path)
      (member : occurrence ∈ given ++ line.occurrences (.slot .path)) : occurrence ∈ given :=
    (List.mem_append.mp member).resolve_right fun isPath => other (parameter_of_mem isPath)
  have fileValues : values .envFile given = line.envFile.toList :=
    written.values_eq (by simp) (by simp)
  refine and_congr ?_ ?_
  · constructor
    · rintro ⟨occurrence, member, isFile⟩
      have inGiven := notLast (by simp [isFile]) member
      cases occurrence with
      | flag flag => cases isFile
      | slot slot file =>
          cases isFile
          have known : file ∈ line.envFile.toList := fileValues ▸ mem_values.mpr inGiven
          exact Option.isSome_of_mem (Option.mem_toList.mp known)
    · intro isSome
      obtain ⟨file, known⟩ := Option.isSome_iff_exists.mp isSome
      have inGiven : .slot .envFile file ∈ given := by
        rw [← mem_values, fileValues, known]
        exact List.mem_singleton_self _
      exact ⟨_, List.mem_append_left _ inGiven, rfl⟩
  · have has : .flag .noEnvFile ∈ given ↔ line.noEnvFile = true := written.flag_mem
    rw [← has]
    constructor
    · rintro ⟨occurrence, member, isFlag⟩
      have inGiven := notLast (by simp [isFlag]) member
      cases occurrence with
      | flag flag =>
          cases isFlag
          exact inGiven
      | slot slot value => cases isFlag
    · exact fun inGiven => ⟨_, List.mem_append_left _ inGiven, rfl⟩

/-- Every line can be written.  However its options are ordered, it is read as it was and changes
just the settings that are given, unless it contradicts itself; then it is refused. -/
theorem written_line_read_back (expressible : line.Expressible) :
    line.Written line.options ∧ ∀ given, line.Written given →
      (¬ line.Contradictory → parse (line.arguments given) = .ok line ∧
        SaidBy line.overrides given) ∧
      (line.Contradictory → ∃ former latter used,
        parse (line.arguments given) = .error (.conflict former latter used) ∧
          (former, latter) ∈ Progress.exclusions) := by
  refine ⟨⟨.inl (.refl _), values_options line (by simp)⟩, fun given written => ?_⟩
  obtain ⟨used, isUsed, parsed⟩ := parse_flatMap line.path
    (fun occurrence => written.parameter_ne_path) rfl (written.sound expressible)
    written.compatible_path
  have both : .slot .envFile ∈ used ∧ .flag .noEnvFile ∈ used ↔ line.Contradictory := by
    rw [isUsed, isUsed]
    exact written.given_both_iff
  have isTold := written.told_eq expressible
  constructor
  · intro consistent
    have free : Progress.conflict? used = none :=
      Progress.conflict?_eq_none_iff.mpr fun given => consistent (both.mp given)
    rw [free] at parsed
    exact ⟨parsed.trans (congrArg Except.ok isTold), written.saidBy expressible⟩
  · intro contradictory
    cases conflict : Progress.conflict? used with
    | none => exact absurd (both.mpr contradictory) (Progress.conflict?_eq_none_iff.mp conflict)
    | some pair =>
        obtain ⟨former, latter⟩ := pair
        rw [conflict] at parsed
        exact ⟨former, latter, _, parsed, Progress.mem_exclusions_of_conflict? conflict⟩

namespace Disguised

/-- A line with values that look like parameters. -/
def ofNames : CommandLine where
  path := some "--"
  envFile := some "--no-env-file"
  ignore := ["--ext=js", "", "a,b"]
  ext := some ["", "-x", "="]
  emptyIsSet := true
  config := some "-"
  verbose := true

/-- Its options in another order, without the usual format. -/
def shuffled : List Occurrence := [
  .slot .ignore "--ext=js",
  .flag .verbose,
  .slot .ext ",-x,=",
  .slot .ignore "",
  .slot .config "-",
  .flag .emptyIsSet,
  .slot .envFile "--no-env-file",
  .slot .ignore "a,b"]

theorem expressible : ofNames.Expressible where
  path := by decide
  config := by decide
  ext := by
    rintro extensions ⟨⟩
    decide

theorem written : ofNames.Written shuffled where
  options := .inr (by decide +kernel)
  patterns := by decide +kernel

end Disguised

theorem written_line_read_back_disguised : Disguised.ofNames.Expressible ∧
    Disguised.ofNames.Written Disguised.shuffled ∧
    parse ["--ignore=--ext=js", "--verbose", "--ext=,-x,=", "--ignore=", "--config=-",
      "--empty-is-set", "--env-file=--no-env-file", "--ignore=a,b", "--", "--"] =
      .ok Disguised.ofNames := by
  have consistent : ¬ Disguised.ofNames.Contradictory :=
    fun contradictory => nomatch contradictory.2
  have arguments : Disguised.ofNames.arguments Disguised.shuffled =
      ["--ignore=--ext=js", "--verbose", "--ext=,-x,=", "--ignore=", "--config=-",
        "--empty-is-set", "--env-file=--no-env-file", "--ignore=a,b", "--", "--"] := by
    decide +kernel
  have readBack := (written_line_read_back Disguised.expressible).2 _ Disguised.written
  rw [arguments] at readBack
  exact ⟨Disguised.expressible, Disguised.written, (readBack.1 consistent).1⟩

end CommandLine

end EnvAudit
