import EnvAudit.Config.Encode
import EnvAudit.Config.Layers
import EnvAudit.Proofs.Config.Layers
import EnvAudit.Proofs.Files.Descent
import EnvAudit.Proofs.Toml.Drafts

/-!
# Settings and their text

Settings can be written unless a number is too large, and are read again from their text as they
were.  In the settings file of a project, they are what is loaded.
-/

namespace EnvAudit

open Toml (Entries FlatTable Hold HoldTables Item Plain ShowsText)

namespace Config

variable {α : Type} {group : Group α} {entries : Entries} {settings : List (String × Plain)}

/-- A line with the setting leads from some settings to others, wherever its value stands. -/
def Sets (group : Group α) (setting : String × Plain) (before after : α) : Prop :=
  ∃ set, group.lookup setting.1 = some set ∧
    ∀ item, setting.2.Shows item → set before item = .ok after

/-- Lines lead from some settings to others, one after another. -/
inductive SetsAll (group : Group α) : List (String × Plain) → α → α → Prop
  | nil {before : α} : SetsAll group [] before before
  | cons {setting : String × Plain} {settings : List (String × Plain)} {before between after : α}
      (first : Sets group setting before between) (others : SetsAll group settings between after) :
      SetsAll group (setting :: settings) before after

theorem SetsAll.append {further : List (String × Plain)} {before between after : α}
    (first : SetsAll group settings before between)
    (second : SetsAll group further between after) :
    SetsAll group (settings ++ further) before after := by
  induction first with
  | nil => exact second
  | cons first _ ih => exact .cons first (ih second)

theorem decodeEntries_cons {key : Toml.Key} {item : Item} {set : α → Item → Except Mismatch α}
    {before between after : α} (known : group.lookup key.name = some set)
    (sets : set before item = .ok between)
    (others : decodeEntries group entries between = .ok after) :
    decodeEntries group ((key, item) :: entries) before = .ok after := by
  rw [decodeEntries, List.foldlM_cons]
  refine bind_eq_ok_iff.mpr ⟨between, ?_, others⟩
  simp only [known]
  exact mapError_eq_ok_iff.mpr sets

theorem decodeEntries_of_hold {before after : α} (sets : SetsAll group settings before after)
    (hold : Hold settings entries) : decodeEntries group entries before = .ok after := by
  induction hold generalizing before with
  | nil =>
      cases sets
      rfl
  | @cons setting entry settings entries shown _ ih =>
      obtain ⟨key, item⟩ := entry
      cases sets with
      | @cons _ _ _ between _ first others =>
          obtain ⟨set, known, first⟩ := first
          obtain ⟨named, shows⟩ := shown
          rw [← named] at known
          exact decodeEntries_cons known (first item shows) (ih others)

section Items

variable {item : Item}

theorem decodeString_of_shows {text : String} (shows : (Plain.text text).Shows item) :
    decodeString item = .ok text := by
  cases shows
  rfl

theorem decodeStrings_of_shows {texts : List String} (shows : (Plain.texts texts).Shows item) :
    decodeStrings item = .ok texts := by
  cases shows with
  | @texts _ items span each =>
      rw [decodeStrings]
      induction each with
      | nil => rfl
      | cons first _ ih =>
          obtain ⟨place, rfl⟩ := first
          rw [List.mapM_cons]
          exact bind_eq_ok_iff.mpr ⟨_, rfl, bind_eq_ok_iff.mpr ⟨_, ih, rfl⟩⟩

theorem decodeNat_of_shows {value : Nat} (shows : (Plain.natural value).Shows item) :
    decodeNat item = .ok value := by
  cases shows
  rw [decodeNat, if_neg (by omega)]
  rfl

theorem decodeBool_of_shows {value : Bool} (shows : (Plain.boolean value).Shows item) :
    decodeBool item = .ok value := by
  cases shows
  rfl

theorem decodePolicy_of_shows {policy : ParseErrorPolicy}
    (shows : (Plain.text policy.name).Shows item) : decodePolicy item = .ok policy := by
  cases shows
  cases policy <;> rfl

end Items

/-- The lines of settings that are given. -/
def given {α : Type} (name : String) (value : α → Plain) (setting : Option α) :
    List (String × Plain) :=
  (setting.map fun setting => (name, value setting)).toList

def scanTable (scan : ScanConfig) : FlatTable where
  name := "scan"
  settings := [
    ("extensions", .texts scan.extensions),
    ("extra_ignore", .texts scan.extraIgnore),
    ("ignore_files", .texts scan.ignoreFiles)] ++
    given "max_file_size" .natural scan.maxFileSize

def checkTable (check : CheckConfig) : FlatTable where
  name := "check"
  settings := given "empty_is_missing" .boolean check.emptyIsMissing ++
    given "on_parse_error" (fun policy => .text policy.name) check.onParseError

def envTable (env : EnvFileConfig) : FlatTable where
  name := "env"
  settings := given "file" .text env.file ++ given "load" .boolean env.load

theorem writeSettings_given {α : Type} (name : String) (value : α → Plain) (setting : Option α) :
    Toml.writeSettings (given name value setting) =
      writeOption name (fun setting => (value setting).write) setting := by
  cases setting with
  | none => rfl
  | some setting => exact List.flatMap_singleton _ _

/-- Settings are written as a document of three tables. -/
theorem writeToml_eq (config : Config) : writeToml config =
    Toml.writeTables (scanTable config.scan) [checkTable config.check, envTable config.env] := by
  simp [writeToml, Toml.writeTables, FlatTable.write, scanTable, checkTable, envTable,
    Toml.writeSettings_append, Toml.writeSettings_cons, writeSettings_given, Plain.write]

theorem names_given {α : Type} (name : String) (value : α → Plain) (setting : Option α) :
    ((given name value setting).map Prod.fst).Sublist [name] := by
  cases setting with
  | none => exact List.nil_sublist _
  | some setting => exact List.Sublist.refl _

theorem writable_given {α : Type} {name : String} {value : α → Plain} {option : Option α}
    (writable : ∀ chosen, option = some chosen → (value chosen).Writable) :
    ∀ setting ∈ given name value option, setting.2.Writable := by
  cases option with
  | none => exact List.forall_mem_nil _
  | some chosen => exact List.forall_mem_singleton.mpr (writable chosen rfl)

/-- A table is proper if its names are among different names that need no quotes. -/
theorem proper_of_names {table : FlatTable} {names : List String}
    (bare : ∀ name ∈ table.name :: names,
      name.toList ≠ [] ∧ name.toList.all Toml.isBareKey = true)
    (distinct : names.Nodup) (known : (table.settings.map Prod.fst).Sublist names)
    (writable : ∀ setting ∈ table.settings, setting.2.Writable) : table.Proper := by
  have good (name : String) (member : name ∈ table.name :: names) : Toml.Bare name :=
    ⟨(bare name member).1, List.all_eq_true.mp (bare name member).2⟩
  refine ⟨good _ List.mem_cons_self, fun setting member => ?_, writable, distinct.sublist known⟩
  exact good _ (List.mem_cons_of_mem _ (known.subset (List.mem_map_of_mem member)))

theorem proper_scanTable {scan : ScanConfig}
    (fits : ∀ size, scan.maxFileSize = some size → size ≤ maxInteger) :
    (scanTable scan).Proper := by
  have known : ((scanTable scan).settings.map Prod.fst).Sublist
      ["extensions", "extra_ignore", "ignore_files", "max_file_size"] := by
    rw [scanTable, List.map_append]
    exact (List.Sublist.refl _).append (names_given _ _ _)
  refine proper_of_names (show ∀ name ∈ ["scan", "extensions", "extra_ignore", "ignore_files",
    "max_file_size"], _ by decide) (by decide) known (List.forall_mem_append.mpr ⟨?_, ?_⟩)
  · simp [Plain.Writable]
  · exact writable_given fits

theorem proper_checkTable (check : CheckConfig) : (checkTable check).Proper := by
  have known : ((checkTable check).settings.map Prod.fst).Sublist
      ["empty_is_missing", "on_parse_error"] := by
    rw [checkTable, List.map_append]
    exact (names_given _ _ _).append (names_given _ _ _)
  exact proper_of_names (show ∀ name ∈ ["check", "empty_is_missing", "on_parse_error"], _ by decide)
    (by decide) known (List.forall_mem_append.mpr
      ⟨writable_given fun _ _ => trivial, writable_given fun _ _ => trivial⟩)

theorem proper_envTable (env : EnvFileConfig) : (envTable env).Proper := by
  have known : ((envTable env).settings.map Prod.fst).Sublist ["file", "load"] := by
    rw [envTable, List.map_append]
    exact (names_given _ _ _).append (names_given _ _ _)
  exact proper_of_names (show ∀ name ∈ ["env", "file", "load"], _ by decide) (by decide) known
    (List.forall_mem_append.mpr
      ⟨writable_given fun _ _ => trivial, writable_given fun _ _ => trivial⟩)

theorem setsAll_given {β : Type} {name : String} {value : β → Plain} {option : Option β}
    {before after : α} (absent : option = none → before = after)
    (sets : ∀ chosen, option = some chosen → Sets group (name, value chosen) before after) :
    SetsAll group (given name value option) before after := by
  cases option with
  | none =>
      obtain rfl := absent rfl
      exact .nil
  | some chosen => exact .cons (sets chosen rfl) .nil

theorem setsAll_scanTable (scan : ScanConfig) :
    SetsAll scanGroup (scanTable scan).settings {} scan := by
  obtain ⟨extensions, extraIgnore, ignoreFiles, maxFileSize⟩ := scan
  have first : Sets scanGroup ("extensions", .texts extensions) {} { extensions } :=
    ⟨_, rfl, fun item shows => bind_eq_ok_iff.mpr ⟨_, decodeStrings_of_shows shows, rfl⟩⟩
  have second : Sets scanGroup ("extra_ignore", .texts extraIgnore) { extensions }
      { extensions, extraIgnore } :=
    ⟨_, rfl, fun item shows => bind_eq_ok_iff.mpr ⟨_, decodeStrings_of_shows shows, rfl⟩⟩
  have third : Sets scanGroup ("ignore_files", .texts ignoreFiles) { extensions, extraIgnore }
      { extensions, extraIgnore, ignoreFiles } :=
    ⟨_, rfl, fun item shows => bind_eq_ok_iff.mpr ⟨_, decodeStrings_of_shows shows, rfl⟩⟩
  refine .cons first (.cons second (.cons third (setsAll_given ?_ ?_)))
  · rintro ⟨⟩
    rfl
  · rintro size ⟨⟩
    exact ⟨_, rfl, fun item shows => bind_eq_ok_iff.mpr ⟨_, decodeNat_of_shows shows, rfl⟩⟩

theorem setsAll_checkTable (check : CheckConfig) :
    SetsAll checkGroup (checkTable check).settings {} check := by
  obtain ⟨emptyIsMissing, onParseError⟩ := check
  have first : SetsAll checkGroup (given "empty_is_missing" .boolean emptyIsMissing) {}
      { emptyIsMissing } := by
    refine setsAll_given ?_ ?_
    · rintro ⟨⟩
      rfl
    · rintro flag ⟨⟩
      exact ⟨_, rfl, fun item shows => bind_eq_ok_iff.mpr ⟨_, decodeBool_of_shows shows, rfl⟩⟩
  refine first.append (setsAll_given ?_ ?_)
  · rintro ⟨⟩
    rfl
  · rintro policy ⟨⟩
    exact ⟨_, rfl, fun item shows => bind_eq_ok_iff.mpr ⟨_, decodePolicy_of_shows shows, rfl⟩⟩

theorem setsAll_envTable (env : EnvFileConfig) :
    SetsAll envGroup (envTable env).settings {} env := by
  obtain ⟨file, load⟩ := env
  have first : SetsAll envGroup (given "file" .text file) {} { file } := by
    refine setsAll_given ?_ ?_
    · rintro ⟨⟩
      rfl
    · rintro path ⟨⟩
      exact ⟨_, rfl, fun item shows => bind_eq_ok_iff.mpr ⟨_, decodeString_of_shows shows, rfl⟩⟩
  refine first.append (setsAll_given ?_ ?_)
  · rintro ⟨⟩
    rfl
  · rintro flag ⟨⟩
    exact ⟨_, rfl, fun item shows => bind_eq_ok_iff.mpr ⟨_, decodeBool_of_shows shows, rfl⟩⟩

/-- The three tables of a document are the three groups of settings. -/
theorem decodeEntries_of_holdTables {config : Config}
    (hold : HoldTables [scanTable config.scan, checkTable config.check, envTable config.env]
      entries) : decodeEntries configGroup entries {} = .ok config := by
  obtain ⟨scan, check, env⟩ := config
  cases hold with
  | @cons _ scanEntry _ _ scanHolds hold =>
  cases hold with
  | @cons _ checkEntry _ _ checkHolds hold =>
  cases hold with
  | @cons _ envEntry _ _ envHolds hold =>
  cases hold
  obtain ⟨⟨_, _⟩, _⟩ := scanEntry
  obtain ⟨rfl, _, _, rfl, scanHolds⟩ := scanHolds
  obtain ⟨⟨_, _⟩, _⟩ := checkEntry
  obtain ⟨rfl, _, _, rfl, checkHolds⟩ := checkHolds
  obtain ⟨⟨_, _⟩, _⟩ := envEntry
  obtain ⟨rfl, _, _, rfl, envHolds⟩ := envHolds
  have scanSets := decodeEntries_of_hold (setsAll_scanTable scan) scanHolds
  have checkSets := decodeEntries_of_hold (setsAll_checkTable check) checkHolds
  have envSets := decodeEntries_of_hold (setsAll_envTable env) envHolds
  refine decodeEntries_cons rfl (bind_eq_ok_iff.mpr ⟨scan, scanSets, rfl⟩) ?_
  refine decodeEntries_cons rfl (bind_eq_ok_iff.mpr ⟨check, checkSets, rfl⟩) ?_
  exact decodeEntries_cons rfl (bind_eq_ok_iff.mpr ⟨env, envSets, rfl⟩) rfl

theorem toToml_eq_ok_iff {config : Config} {text : String} : toToml config = .ok text ↔
    (∀ size, config.scan.maxFileSize = some size → size ≤ maxInteger) ∧
      text = .ofList (writeToml config) := by
  rw [toToml]
  cases known : config.scan.maxFileSize with
  | none => simp [eq_comm]
  | some size =>
      rcases Nat.lt_or_ge maxInteger size with large | fits
      · simp [large]
      · simp [Nat.not_lt.mpr fits, fits, eq_comm]

/-- Settings are read from their text as they were written. -/
theorem readToml_toToml {config : Config} {text : String} (written : toToml config = .ok text) :
    readToml text = .ok config := by
  obtain ⟨fits, rfl⟩ := toToml_eq_ok_iff.mp written
  have distinct : ([scanTable config.scan, checkTable config.check, envTable config.env].map
      FlatTable.name).Nodup := by
    simp [scanTable, checkTable, envTable]
  obtain ⟨entries, reads, hold⟩ := Toml.ofText_writeTables (scanTable config.scan)
    [checkTable config.check, envTable config.env]
    (by simpa using ⟨proper_scanTable fits, proper_checkTable _, proper_envTable _⟩) distinct
  rw [readToml, writeToml_eq, reads]
  simp only [decodeEntries_of_holdTables hold]

section Load

variable {files : FileSystem} {root path text : String} {named : Option String}
variable {environment : Environment} {config : Config}

/-- The variables that settings are taken from. -/
def variableNames : List String :=
  ["ENVCHECK_EXTENSIONS", "ENVCHECK_EMPTY_IS_MISSING", "ENVCHECK_ON_PARSE_ERROR",
    "ENVCHECK_ENV_FILE"]

theorem variablesGive_of_unset (unset : ∀ name ∈ variableNames, environment.get? name = none) :
    VariablesGive environment ⟨none, none, none, none⟩ := by
  have absent (name : String) (member : name ∈ variableNames) := unset name member
  constructor
  · rw [absent "ENVCHECK_EXTENSIONS" (by decide)]
    exact .none
  · rw [absent "ENVCHECK_EMPTY_IS_MISSING" (by decide)]
    exact .none
  · rw [absent "ENVCHECK_ON_PARSE_ERROR" (by decide)]
    exact .none
  · rw [absent "ENVCHECK_ENV_FILE" (by decide)]

theorem fileGives_of_read (reads : files.read path = .ok text.toUTF8)
    (gives : ofToml text = .ok config) : FileGives files path config := by
  refine ⟨?_, text, ?_, gives⟩
  · obtain ⟨⟨found, left⟩, located, isContent⟩ := bind_eq_ok_iff.mp reads
    rw [FileSystem.isFile, located]
    cases found with
    | file readable content => rfl
    | directory place => cases isContent
  · have decoded : String.fromUTF8? text.toUTF8 = some text := by
      simp [String.fromUTF8?, String.fromUTF8, text.isValidUTF8]
    refine bind_eq_ok_iff.mpr ⟨_, reads, ?_⟩
    rw [decoded]

theorem projectGives_of_fileGives
    (gives : FileGives files (named.getD (Path.join root projectFile)) config) :
    ProjectGives files root named config := by
  cases named with
  | none => exact .usual gives
  | some path => exact .named gives

/-- Settings that nothing else adds to are loaded as they are. -/
theorem load_of_projectGives (gives : ProjectGives files root named config)
    (unset : ∀ name ∈ variableNames, environment.get? name = none)
    (valid : config.validate = .ok ()) :
    load files root named environment {} = .ok config := by
  have same : Variables.over ⟨none, none, none, none⟩ config = config := rfl
  have resolved : Resolved none ⟨none, none, none, none⟩ config config := by
    rw [resolved_iff, same]
    exact withOverrides_default config
  have loads : load files root named environment (Option.getD none {}) = .ok config :=
    load_eq_ok_iff.mpr ⟨config, _, gives, variablesGive_of_unset unset, resolved, valid⟩
  exact loads

end Load

/-- Settings can be written unless the size is too large, and they are read from their text as
they were.  If they are valid, then they are also loaded from a settings file with the text, where
neither a variable nor the command line gives a setting. -/
theorem survives_toml (config : Config) :
    ((∃ text, toToml config = .ok text) ↔
      ∀ size, config.scan.maxFileSize = some size → size ≤ maxInteger) ∧
    ∀ text, toToml config = .ok text →
      ofToml text = .ok config ∧
      (config.validate = .ok () → ∀ (files : FileSystem) (root : String) (named : Option String)
        (environment : Environment),
        files.read (named.getD (Path.join root projectFile)) = .ok text.toUTF8 →
        (∀ name ∈ variableNames, environment.get? name = none) →
        load files root named environment {} = .ok config) := by
  constructor
  · constructor
    · rintro ⟨text, written⟩
      exact (toToml_eq_ok_iff.mp written).1
    · intro fits
      exact ⟨_, toToml_eq_ok_iff.mpr ⟨fits, rfl⟩⟩
  · intro text written
    have reads : ofToml text = .ok config := mapError_eq_ok_iff.mpr (readToml_toToml written)
    refine ⟨reads, fun valid files root named environment isText unset => ?_⟩
    have gives := projectGives_of_fileGives (fileGives_of_read isText reads)
    exact load_of_projectGives gives unset valid

namespace Awkward

/-- Texts with quotes of both kinds, a backslash, a line feed and a control. -/
def config : Config where
  scan := {
    extensions := [" .TS", "js"]
    extraIgnore := ["it's \"quoted\"", "\\\n", "\x07"]
    maxFileSize := some maxInteger }
  check := { onParseError := some .skip }
  env := { file := some "a\tb", load := some false }

def files (text : String) : FileSystem where
  root := ⟨true, [("envcheck.toml", .file true text.toUTF8)]⟩
  workingDirectory := "/"

theorem read_files (text : String) :
    (files text).read (Path.join "/" projectFile) = .ok text.toUTF8 := by
  have isPath : Path.join "/" projectFile = "/envcheck.toml" := by decide
  have inParts : (files text).locate "/envcheck.toml" =
      (files text).follow FileSystem.linkLimit (files text).top ["", "envcheck.toml"] :=
    FileSystem.locate_of_parts (by decide) (by decide) (by decide)
      (show Path.parts (Path.join "/" "/envcheck.toml") = _ by decide)
  have located : (files text).locate "/envcheck.toml" = .ok (.file true text.toUTF8, 40) := by
    rw [inParts]
    simp [FileSystem.follow, files, FileSystem.top, Path.isIdle, FileSystem.linkLimit]
  rw [isPath, FileSystem.read, located]
  rfl

end Awkward

theorem survives_toml_awkward : ∃ text, toToml Awkward.config = .ok text ∧
    ofToml text = .ok Awkward.config ∧
    load (Awkward.files text) "/" none .empty {} = .ok Awkward.config := by
  obtain ⟨succeeds, gives⟩ := survives_toml Awkward.config
  obtain ⟨text, written⟩ := succeeds.mpr (by rintro size ⟨⟩; rfl)
  obtain ⟨reads, loads⟩ := gives text written
  have valid : Awkward.config.validate = .ok () := by decide +kernel
  exact ⟨text, written, reads,
    loads valid _ _ none _ (Awkward.read_files text) fun _ _ => rfl⟩

end Config

end EnvAudit
