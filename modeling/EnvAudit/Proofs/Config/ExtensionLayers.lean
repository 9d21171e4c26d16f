import EnvAudit.Proofs.CommandLine.Telling
import EnvAudit.Proofs.Config.RoundTrip

/-!
# Extensions from any layer

Extensions may be listed in the settings file, be enumerated in a variable, or be given on the
command line, at once or one after the other.  Wherever the list comes from, it has the same
effect: blanks around an extension make no difference, and what is blank is no extension.
-/

namespace EnvAudit

namespace ScanConfig

theorem normalExtension_trim (extension : String) :
    normalExtension (Text.trim extension) = normalExtension extension := by
  have letters (text : String) : (Text.trim text).toList = Text.trimChars text.toList := by
    rw [Text.trim, String.toList_ofList]
  rw [normalExtension, normalExtension, ← letters, ← letters, Text.trim_trim]

end ScanConfig

namespace Config

/-- Parts of a text are those of a list with blanks around them, and blank ones in between. -/
inductive Scattered : (list parts : List String) → Prop
  | nil : Scattered [] []
  | item {before item behind : String} {list parts : List String} (blankBefore : Text.Blank before)
      (blankBehind : Text.Blank behind) (others : Scattered list parts) :
      Scattered (item :: list) ((before ++ item ++ behind) :: parts)
  | blank {part : String} {list parts : List String} (blank : Text.Blank part)
      (others : Scattered list parts) : Scattered list (part :: parts)

/-- What comes of a list of extensions: the normal ones, or else the complaint about the first of
them that is not supported. -/
def settleExtensions (list : List String) : Except ConfigError (List String) :=
  let normal := list.map ScanConfig.normalExtension
  match normal.find? fun extension => !ScanConfig.supportedExtensions.contains extension with
  | some extension => .error (unsupportedExtension extension)
  | none => .ok normal

/-- The effective extensions of settings that are loaded. -/
def loadExtensions (files : FileSystem) (root : String) (named : Option String)
    (environment : Environment) (overrides : Overrides) : Except ConfigError (List String) :=
  (load files root named environment overrides).map fun config => config.scan.effectiveExtensions

variable {files : FileSystem} {root : String} {named : Option String} {environment : Environment}
variable {overrides : Overrides} {project config : Config} {assigned : Variables}
variable {list parts : List String}

namespace Scattered

theorem ne_nil (scattered : Scattered list parts) (nonempty : list ≠ []) : parts ≠ [] := by
  cases scattered with
  | nil => exact absurd rfl nonempty
  | item | blank => exact List.cons_ne_nil _ _

theorem free (scattered : Scattered list parts) (free : ∀ item ∈ list, ',' ∉ item.toList) :
    ∀ part ∈ parts, ',' ∉ part.toList := by
  induction scattered with
  | nil => simp
  | item blankBefore blankBehind others ih =>
      obtain ⟨itemFree, free⟩ := List.forall_mem_cons.mp free
      refine List.forall_mem_cons.mpr ⟨?_, ih free⟩
      simp [String.toList_append, Text.free_of_blank blankBefore, itemFree,
        Text.free_of_blank blankBehind]
  | blank blank others ih =>
      exact List.forall_mem_cons.mpr ⟨Text.free_of_blank blank, ih free⟩

/-- Trimming the parts leaves the list, trimmed. -/
theorem trimmed (scattered : Scattered list parts) (visible : ∀ item ∈ list, ¬ Text.Blank item) :
    ((parts.map Text.trim).filter fun part => part ≠ "") = list.map Text.trim := by
  induction scattered with
  | nil => rfl
  | item blankBefore blankBehind others ih =>
      obtain ⟨itemVisible, visible⟩ := List.forall_mem_cons.mp visible
      have kept := Text.trim_ne_empty itemVisible
      rw [List.map_cons, Text.trim_among blankBefore blankBehind,
        List.filter_cons_of_pos (by simpa), ih visible, List.map_cons]
  | blank blank others ih =>
      rw [List.map_cons, Text.trim_of_blank blank, List.filter_cons_of_neg (by simp), ih visible]

theorem extensionsOfText (scattered : Scattered list parts) (nonempty : list ≠ [])
    (free : ∀ item ∈ list, ',' ∉ item.toList) (visible : ∀ item ∈ list, ¬ Text.Blank item) :
    extensionsOfText (",".intercalate parts) = list.map Text.trim := by
  have isSplit : Text.split ',' (",".intercalate parts) = parts :=
    Text.split_eq_iff.mpr ⟨scattered.ne_nil nonempty, scattered.free free, rfl⟩
  rw [Config.extensionsOfText, isSplit, scattered.trimmed visible]

end Scattered

theorem settleExtensions_trim (list : List String) :
    settleExtensions (list.map Text.trim) = settleExtensions list := by
  have same : (list.map Text.trim).map ScanConfig.normalExtension =
      list.map ScanConfig.normalExtension := by
    rw [List.map_map]
    exact List.map_congr_left fun item _ => ScanConfig.normalExtension_trim item
  rw [settleExtensions, settleExtensions, same]

/-- What the layers give together is what is loaded, if it is valid. -/
theorem load_of_layers (projectGives : ProjectGives files root named project)
    (variablesGive : VariablesGive environment assigned) :
    load files root named environment overrides =
      (withOverrides overrides (assigned.over project)).validate.map fun _ =>
        withOverrides overrides (assigned.over project) := by
  have read : withVariables environment (merge {} project) = .ok (assigned.over project) := by
    rw [merge_default]
    exact withVariables_eq_ok_iff.mpr ⟨assigned, variablesGive, rfl⟩
  rw [load, ofProject_eq_ok_iff.mpr projectGives]
  simp only [bind, Except.bind, read]
  cases (withOverrides overrides (assigned.over project)).validate <;> rfl

/-- Where nothing but extensions is set, they alone decide. -/
theorem validate_extensions (nonempty : list ≠ []) (listed : config.scan.extensions = list)
    (unsized : config.scan.maxFileSize = none) (noFile : config.env.file = none) :
    (config.validate.map fun _ => config.scan.effectiveExtensions) = settleExtensions list := by
  have effective : config.scan.effectiveExtensions = list.map ScanConfig.normalExtension := by
    rw [ScanConfig.effectiveExtensions, listed, if_neg (by simpa using nonempty)]
  rw [validate, settleExtensions, effective, unsized, noFile, if_neg (by simp)]
  generalize (list.map ScanConfig.normalExtension).find? _ = unsupported
  cases unsupported <;> rfl

/-- Only the variable for extensions is set. -/
structure OnlyExtensions (environment : Environment) (text : String) : Prop where
  extensions : environment.get? "ENVCHECK_EXTENSIONS" = some text
  others : ∀ name ∈ variableNames, name ≠ "ENVCHECK_EXTENSIONS" → environment.get? name = none

theorem OnlyExtensions.variablesGive {text : String} (only : OnlyExtensions environment text) :
    VariablesGive environment ⟨some (extensionsOfText text), none, none, none⟩ := by
  constructor
  · rw [only.extensions]
    exact .some (enumerates_iff.mpr rfl)
  · rw [only.others "ENVCHECK_EMPTY_IS_MISSING" (by decide) (by decide)]
    exact .none
  · rw [only.others "ENVCHECK_ON_PARSE_ERROR" (by decide) (by decide)]
    exact .none
  · rw [only.others "ENVCHECK_ENV_FILE" (by decide) (by decide)]

end Config

namespace CommandLine

/-- Groups of extensions joined by commas, each in an argument of its own, make up one list. -/
theorem parse_extensions {groups : List (List String)} (some : groups ≠ [])
    (nonempty : ∀ group ∈ groups, group ≠ [])
    (free : ∀ group ∈ groups, ∀ item ∈ group, ',' ∉ item.toList) :
    parse (groups.map fun group => "--ext=" ++ ",".intercalate group) =
      .ok { ext := groups.flatten } := by
  let joined := groups.map ",".intercalate
  let given := joined.map (Occurrence.slot .ext)
  have isExt : ∀ occurrence ∈ given, occurrence.parameter = .slot .ext := by
    simp [given, Occurrence.parameter]
  have sound : ∀ occurrence ∈ given, occurrence.Sound := by
    intro occurrence member line
    obtain ⟨value, _, rfl⟩ := List.mem_map.mp member
    exact ⟨_, rfl⟩
  have compatible : given.Pairwise Occurrence.Compatible :=
    List.pairwise_map.mpr (List.pairwise_of_forall fun _ _ _ => rfl)
  obtain ⟨used, isUsed, parsed⟩ := parse_flatMap none
    (fun occurrence member => by simp [isExt occurrence member]) (List.append_nil given)
    sound compatible
  have unopposed : Progress.conflict? used = none := by
    refine Progress.conflict?_eq_none_iff.mpr fun both => ?_
    obtain ⟨occurrence, member, isFile⟩ := (isUsed _).mp both.1
    cases (isExt occurrence member).symm.trans isFile
  have arguments : (groups.map fun group => "--ext=" ++ ",".intercalate group) =
      given.flatMap Occurrence.arguments := by
    simp [given, joined, List.flatMap_map, Occurrence.arguments, Slot.long?, ← List.map_eq_flatMap]
  have items : joined.flatMap (Text.split ',') = groups.flatten := by
    rw [List.flatMap_map, ← List.flatMap_id]
    exact List.flatMap_congr fun group member =>
      Text.split_eq_iff.mpr ⟨nonempty group member, free group member, rfl⟩
  have noFlag (flag : Flag) : .flag flag ∉ given := by
    intro member
    cases isExt _ member
  have isTold : told given = { ext := groups.flatten } := by
    have joinedSome : joined ≠ [] := by simpa [joined] using some
    rw [told]
    simp [noFlag, given, joinedSome, items]
  rw [arguments, parsed, unopposed, isTold]

end CommandLine

namespace Config

/-- What the layers give together decides, if it holds nothing but extensions. -/
theorem loadExtensions_of_layers (projectGives : ProjectGives files root named project)
    (variablesGive : VariablesGive environment assigned)
    (alone : withOverrides overrides (assigned.over project) = { scan := { extensions := list } })
    (nonempty : list ≠ []) :
    loadExtensions files root named environment overrides = settleExtensions list := by
  let config : Config := { scan := { extensions := list } }
  have settled : (config.validate.map fun _ => config.scan.effectiveExtensions) =
      settleExtensions list := validate_extensions nonempty rfl rfl rfl
  rw [loadExtensions, load_of_layers projectGives variablesGive, alone, ← settled]
  cases config.validate <;> rfl

/-- A list of extensions has the same effect wherever it comes from, if no other layer gives a
setting: the same effective extensions, or the same complaint.  It may stand in the settings file,
where every list can be written; it may be enumerated in the variable among blanks and blank items;
and it may be given on the command line at once or in groups. -/
theorem extensions_same_from_any_layer {list : List String} (nonempty : list ≠ [])
    (free : ∀ item ∈ list, ',' ∉ item.toList) (visible : ∀ item ∈ list, ¬ Text.Blank item) :
    (∃ text, toToml { scan := { extensions := list } } = .ok text ∧
      ofToml text = .ok { scan := { extensions := list } }) ∧
    (∀ files root named environment,
      ProjectGives files root named { scan := { extensions := list } } →
      (∀ name ∈ variableNames, environment.get? name = none) →
      loadExtensions files root named environment {} = settleExtensions list) ∧
    (∀ files root named environment parts, ProjectGives files root named {} →
      Scattered list parts → OnlyExtensions environment (",".intercalate parts) →
      loadExtensions files root named environment {} = settleExtensions list) ∧
    ∀ (files : FileSystem) (root : String) (environment : Environment)
      (groups : List (List String)), ProjectGives files root none {} →
      (∀ name ∈ variableNames, environment.get? name = none) →
      (∀ group ∈ groups, group ≠ []) → groups.flatten = list →
      ∃ line, CommandLine.parse (groups.map fun group => "--ext=" ++ ",".intercalate group) =
          .ok line ∧
        loadExtensions files root line.config environment line.overrides =
          settleExtensions list := by
  refine ⟨?file, ?fromFile, ?fromVariable, ?fromLine⟩
  case file =>
    obtain ⟨writable, readBack⟩ := survives_toml { scan := { extensions := list } }
    obtain ⟨text, written⟩ := writable.mpr (by simp)
    exact ⟨text, written, (readBack text written).1⟩
  case fromFile =>
    intro files root named environment gives unset
    exact loadExtensions_of_layers gives (variablesGive_of_unset unset) rfl nonempty
  case fromVariable =>
    intro files root named environment parts silent scattered only
    have variablesGive := only.variablesGive
    rw [scattered.extensionsOfText nonempty free visible] at variablesGive
    have trimmedNonempty : list.map Text.trim ≠ [] := by simp [nonempty]
    rw [loadExtensions_of_layers silent variablesGive rfl trimmedNonempty, settleExtensions_trim]
  case fromLine =>
    intro files root environment groups silent unset someItem all
    have someGroup : groups ≠ [] := by
      rintro rfl
      exact nonempty all.symm
    have groupFree : ∀ group ∈ groups, ∀ item ∈ group, ',' ∉ item.toList :=
      fun group member item among => free item (all ▸ List.mem_flatten_of_mem member among)
    refine ⟨_, CommandLine.parse_extensions someGroup someItem groupFree, ?_⟩
    have overridden : CommandLine.overrides { ext := groups.flatten } =
        { extensions := some list } := by
      rw [all]
      rfl
    rw [overridden]
    exact loadExtensions_of_layers silent (variablesGive_of_unset unset) rfl nonempty

namespace Spread

/-- Extensions with a dot, a capital and a blank. -/
def list : List String := [".JS", " tsx"]

/-- A tree without a settings file. -/
def files : FileSystem where
  root := ⟨true, []⟩
  workingDirectory := "/"

def environment : Environment := .ofList [("ENVCHECK_EXTENSIONS", "  ,\t.JS ,, tsx")]

theorem silent : ProjectGives files "/" none {} := by
  have isPath : Path.join "/" projectFile = "/envcheck.toml" := by decide
  have inParts : files.locate "/envcheck.toml" =
      files.follow FileSystem.linkLimit files.top ["", "envcheck.toml"] :=
    FileSystem.locate_of_parts (by decide) (by decide) (by decide)
      (show Path.parts (Path.join "/" "/envcheck.toml") = _ by decide)
  have missing : files.locate "/envcheck.toml" = .error .noSuchEntry := by
    have short : ¬ FileSystem.nameLimit < "envcheck.toml".utf8ByteSize := by decide
    rw [inParts]
    simp [FileSystem.follow, files, FileSystem.top, Path.isIdle, FileSystem.linkLimit, short]
  exact .absent (by rw [isPath, FileSystem.isFile, missing])

theorem scattered : Scattered list ["  ", "\t.JS ", "", " tsx"] :=
  .blank (by decide +kernel) <|
    .item (show Text.Blank "\t" by decide +kernel) (show Text.Blank " " by decide +kernel) <|
      .blank (by decide +kernel) <|
        .item (show Text.Blank "" by decide +kernel) (show Text.Blank "" by decide +kernel) .nil

theorem settled : settleExtensions list = .ok ["js", "tsx"] := by
  decide +kernel

end Spread

theorem extensions_same_from_any_layer_spread :
    (∃ text, ofToml text = .ok { scan := { extensions := Spread.list } } ∧
      loadExtensions (Awkward.files text) "/" none .empty {} = .ok ["js", "tsx"]) ∧
    loadExtensions Spread.files "/" none Spread.environment {} = .ok ["js", "tsx"] ∧
    ∃ line, CommandLine.parse ["--ext=.JS", "--ext= tsx"] = .ok line ∧
      loadExtensions Spread.files "/" line.config .empty line.overrides =
        .ok ["js", "tsx"] := by
  obtain ⟨⟨text, _, reads⟩, fromFile, fromVariable, fromLine⟩ :=
    extensions_same_from_any_layer (show Spread.list ≠ [] by decide +kernel) (by decide +kernel)
      (by decide +kernel)
  rw [Spread.settled] at fromFile fromVariable fromLine
  have gives : ProjectGives (Awkward.files text) "/" none
      { scan := { extensions := Spread.list } } :=
    projectGives_of_fileGives (fileGives_of_read (Awkward.read_files text) reads)
  exact ⟨⟨text, reads, fromFile _ _ _ _ gives fun _ _ => rfl⟩,
    fromVariable _ _ _ _ _ Spread.silent Spread.scattered ⟨by decide +kernel, by decide +kernel⟩,
    fromLine _ _ _ [[".JS"], [" tsx"]] Spread.silent (fun _ _ => rfl) (by decide) rfl⟩

end Config

end EnvAudit
