import EnvAudit.Config.Layers
import EnvAudit.Proofs.Check.Verdict
import EnvAudit.Proofs.Files.Reached
import EnvAudit.Proofs.Ignore.Lines
import EnvAudit.Proofs.Walk.Success

/-!
# Directories of scripts

In a directory that holds nothing but scripts, a check collects all of them in their order.  If it
leaves out what does not parse, it succeeds, whatever the scripts say.
-/

namespace EnvAudit

/-- An ignore file that does not exist adds nothing. -/
theorem IgnoreRules.addFile_of_missing {files : FileSystem} {rules : IgnoreRules} {name : String}
    (missing : files.isFile (Path.join rules.root name) = false) :
    addFile files rules name = .ok rules := by
  rw [addFile, readFile?, if_neg (by simp [missing])]
  rfl

theorem IgnoreRules.foldlM_addFile_of_missing {files : FileSystem} {rules : IgnoreRules}
    {names : List String}
    (missing : ∀ name ∈ names, files.isFile (Path.join rules.root name) = false) :
    names.foldlM (addFile files) rules = .ok rules := by
  induction names with
  | nil => rfl
  | cons name names ih =>
      obtain ⟨here, further⟩ := List.forall_mem_cons.mp missing
      exact bind_eq_ok_iff.mpr ⟨rules, addFile_of_missing here, ih further⟩

theorem ScanConfig.isName_of_usual {name : String} (usual : name ∈ usualIgnoreFiles) :
    IsName name := by
  simp only [usualIgnoreFiles, List.mem_cons, List.not_mem_nil, or_false] at usual
  rcases usual with rfl | rfl <;> constructor <;> decide

/-- A directory at the root of a file system, and the names and texts of the scripts in it. -/
structure ScriptTree where
  name : String
  scripts : List (String × String)
  /-- What the system shows of the names that are no text. -/
  garbled : List String := []

namespace ScriptTree

def entryOf (script : String × String) : String × Entry :=
  (script.1, .file true script.2.toUTF8)

def directory (tree : ScriptTree) : Directory :=
  ⟨true, tree.scripts.map entryOf⟩

def files (tree : ScriptTree) : FileSystem where
  root := ⟨true, [(tree.name, .directory true tree.directory.entries)]⟩
  workingDirectory := "/"
  garbled := tree.garbled

/-- The path of the directory. -/
def path (tree : ScriptTree) : String :=
  Path.join "/" tree.name

/-- What a check collects of a script. -/
def sourceOf (tree : ScriptTree) (script : String × String) : SourceFile :=
  ⟨Path.join tree.path script.1, .plainScript, script.2.toUTF8.size⟩

def sources (tree : ScriptTree) : List SourceFile :=
  tree.scripts.map tree.sourceOf

/-- A check with the usual settings collects the script. -/
structure Fits (tree : ScriptTree) (script : String × String) : Prop where
  isName : IsName script.1
  noNul : (Path.join tree.path script.1).toList.contains '\x00' = false
  short : (Path.join tree.path script.1).utf8ByteSize ≤ FileSystem.pathLimit
  dialect : (Collector.ofConfig {}).dialectFor? (Path.join tree.path script.1) =
    some .plainScript
  small : script.2.toUTF8.size ≤ (Collector.ofConfig {}).maxFileSize

instance (tree : ScriptTree) (script : String × String) : Decidable (tree.Fits script) :=
  decidable_of_iff
    (IsName script.1 ∧ (Path.join tree.path script.1).toList.contains '\x00' = false ∧
      (Path.join tree.path script.1).utf8ByteSize ≤ FileSystem.pathLimit ∧
      (Collector.ofConfig {}).dialectFor? (Path.join tree.path script.1) = some .plainScript ∧
      script.2.toUTF8.size ≤ (Collector.ofConfig {}).maxFileSize)
    ⟨fun ⟨isName, noNul, short, dialect, small⟩ => ⟨isName, noNul, short, dialect, small⟩,
      fun fits => ⟨fits.isName, fits.noNul, fits.short, fits.dialect, fits.small⟩⟩

/-- All scripts have names of their own, and none has that of a file with settings or rules. -/
structure Plain (tree : ScriptTree) : Prop where
  isName : IsName tree.name
  absolute : Path.absolute "/" tree.path = tree.path
  noNul : tree.path.toList.contains '\x00' = false
  short : tree.path.utf8ByteSize ≤ FileSystem.pathLimit
  fits : ∀ script ∈ tree.scripts, tree.Fits script
  distinct : (tree.scripts.map Prod.fst).Nodup
  unlisted : ∀ name ∈ Config.projectFile :: ScanConfig.usualIgnoreFiles,
    tree.directory.entries.lookup name = none

instance (tree : ScriptTree) : Decidable tree.Plain :=
  decidable_of_iff
    (IsName tree.name ∧ Path.absolute "/" tree.path = tree.path ∧
      tree.path.toList.contains '\x00' = false ∧
      tree.path.utf8ByteSize ≤ FileSystem.pathLimit ∧
      (∀ script ∈ tree.scripts, tree.Fits script) ∧ (tree.scripts.map Prod.fst).Nodup ∧
      ∀ name ∈ Config.projectFile :: ScanConfig.usualIgnoreFiles,
        tree.directory.entries.lookup name = none)
    ⟨fun ⟨isName, absolute, noNul, short, fits, distinct, unlisted⟩ =>
        ⟨isName, absolute, noNul, short, fits, distinct, unlisted⟩,
      fun plain => ⟨plain.isName, plain.absolute, plain.noNul, plain.short, plain.fits,
        plain.distinct, plain.unlisted⟩⟩

namespace Plain

variable {tree : ScriptTree} {config : Config} {script : String × String}

theorem located (plain : tree.Plain) :
    tree.files.locate tree.path =
      .ok (.directory ⟨tree.directory, [tree.files.root]⟩, FileSystem.linkLimit) :=
  FileSystem.locate_of_top tree.name rfl plain.isName List.lookup_cons_self plain.noNul plain.short

theorem isFile_settings (plain : tree.Plain) :
    tree.files.isFile (Path.join tree.path Config.projectFile) = false :=
  FileSystem.isFile_join_of_missing plain.located (by decide)
    (plain.unlisted _ List.mem_cons_self)

theorem ofProject_eq (plain : tree.Plain) :
    Config.ofProject tree.files tree.path none = .ok {} := by
  rw [Config.ofProject, Config.file?, plain.isFile_settings]
  rfl

theorem loaded (plain : tree.Plain) :
    IgnoreRules.load tree.files tree.path ScanConfig.usualIgnoreFiles [] =
      .ok ⟨tree.path, [], []⟩ := by
  have none : ScanConfig.usualIgnoreFiles.foldlM (IgnoreRules.addFile tree.files)
      ⟨tree.path, [], []⟩ = .ok ⟨tree.path, [], []⟩ :=
    IgnoreRules.foldlM_addFile_of_missing fun name usual =>
      FileSystem.isFile_join_of_missing plain.located (ScanConfig.isName_of_usual usual)
        (plain.unlisted name (List.mem_cons_of_mem _ usual))
  exact bind_eq_ok_iff.mpr ⟨_, none, rfl⟩

theorem visited (fits : tree.Fits script) (place : Place) :
    (Collector.ofConfig {}).visit tree.files ⟨tree.path, [], []⟩ FileSystem.linkLimit place
      tree.path "" (entryOf script) =
      .ok { files := [tree.sourceOf script] } := by
  refine Collector.visit_eq_ok_iff.mpr ⟨fits.short, _, _, rfl, ?_⟩
  have kept (relative : String) : IgnoreRules.isIgnored ⟨tree.path, [], []⟩ relative false =
      false := rfl
  have added : (Collector.ofConfig {}).collectFile (Path.join tree.path script.1)
      script.2.toUTF8.size = { files := [tree.sourceOf script] } := by
    rw [Collector.collectFile, fits.dialect]
    simp only [if_neg (Nat.not_lt.mpr fits.small)]
    rfl
  rw [Collector.enter, kept]
  exact congrArg Except.ok added

theorem walked (place : Place) (scripts : List (String × String))
    (fits : ∀ script ∈ scripts, tree.Fits script) :
    (Collector.ofConfig {}).walkEntries tree.files ⟨tree.path, [], []⟩ FileSystem.linkLimit place
      tree.path "" (scripts.map entryOf) =
      .ok { files := scripts.map tree.sourceOf } := by
  induction scripts with
  | nil => exact Collector.walkEntries_nil
  | cons script others ih =>
      obtain ⟨here, further⟩ := List.forall_mem_cons.mp fits
      rw [List.map_cons, Collector.walkEntries_cons]
      exact bind_eq_ok_iff.mpr ⟨_, visited here place, bind_eq_ok_iff.mpr ⟨_, ih further, rfl⟩⟩

/-- A check collects all scripts. -/
theorem surveyed (plain : tree.Plain) (usual : config.scan = {}) :
    Check.survey config tree.files tree.path = .ok { files := tree.sources } := by
  have collected : (Collector.ofConfig {}).collect tree.files tree.path ⟨tree.path, [], []⟩ =
      .ok { files := tree.sources } := by
    rw [Collector.collect, plain.located]
    exact walked _ tree.scripts plain.fits
  rw [Check.survey, usual]
  exact bind_eq_ok_iff.mpr ⟨_, plain.loaded, collected⟩

theorem proper (plain : tree.Plain) : ProperEntries tree.directory.entries where
  distinct := by
    rw [directory, List.map_map]
    exact plain.distinct
  named := List.forall_mem_map.mpr fun script member => (plain.fits script member).isName
  inner := List.forall_mem_map.mpr fun _ _ => .file _ _

theorem files_proper (plain : tree.Plain) : tree.files.Proper where
  distinct := List.nodup_singleton _
  named := List.forall_mem_singleton.mpr plain.isName
  inner := List.forall_mem_singleton.mpr plain.proper.directory

theorem lookup_script (plain : tree.Plain) (member : script ∈ tree.scripts) :
    tree.directory.entries.lookup script.1 = some (.file true script.2.toUTF8) :=
  plain.proper.lookup_eq_some_iff.mpr (List.mem_map_of_mem (f := entryOf) member)

theorem read_source (plain : tree.Plain) (member : script ∈ tree.scripts) :
    tree.files.read (tree.sourceOf script).path = .ok script.2.toUTF8 := by
  have fits := plain.fits script member
  have located := FileSystem.locate_join plain.located fits.isName
    (plain.lookup_script member) fits.noNul fits.short
  rw [FileSystem.read, sourceOf, located]
  rfl

theorem readSource_source (plain : tree.Plain) (member : script ∈ tree.scripts) :
    Check.readSource tree.files (tree.sourceOf script).path = .ok script.2 := by
  rw [Check.readSource, plain.read_source member]
  simp only [Text.fromUTF8?_toUTF8]

/-- A script is read as its text is. -/
theorem referencesIn_eq (plain : tree.Plain) (member : script ∈ tree.scripts) :
    Check.referencesIn tree.files (tree.sourceOf script) =
      (references script.2 .plainScript).mapError fun error =>
        .parse (error.atPath (tree.sourceOf script).path) := by
  rw [Check.referencesIn, plain.readSource_source member]
  rfl

/-- A check that leaves out what does not parse fails at none of the scripts. -/
theorem passes (plain : tree.Plain) :
    ∀ file ∈ tree.sources, Check.Passes tree.files .skip file := by
  intro file collected
  obtain ⟨script, member, rfl⟩ := List.mem_map.mp collected
  have known := plain.referencesIn_eq member
  cases parsed : references script.2 .plainScript with
  | ok found => exact .parsed (known.trans (by rw [parsed]; rfl))
  | error error => exact .leftOut (known.trans (by rw [parsed]; rfl)) rfl

/-- A check that leaves out what does not parse succeeds. -/
theorem succeeds (plain : tree.Plain) (usual : config.scan = {})
    (lenient : config.check.effectiveParseErrorPolicy = .skip) (environment : Environment)
    (durationMs : Nat) :
    (Check.run config tree.files tree.path environment durationMs).outcome =
      .ok (Check.verdict config tree.files tree.path environment durationMs
        { files := tree.sources }) := by
  refine Check.outcome_eq_ok_iff.mpr ⟨_, plain.surveyed usual, ?_, rfl⟩
  rw [lenient]
  exact plain.passes

end Plain

/-- Settings under which what does not parse is left out. -/
def lenient : Config := { check := { onParseError := some .skip } }

theorem file_of_lookup {tree : ScriptTree} {name : String} {entry : Entry}
    (known : tree.directory.entries.lookup name = some entry) :
    ∃ content, entry = .file true content := by
  obtain ⟨script, _, same⟩ := List.mem_map.mp (mem_of_lookup known)
  exact ⟨script.2.toUTF8, congrArg Prod.snd same.symm⟩

/-- Two scripts with repeated names, in one of them and in both.  The automata are too large to be
run by a proof, so theorems about the scripts leave open what is read in them. -/
def pair : ScriptTree where
  name := "app"
  scripts := [
    ("a.js", "process.env.A; process.env.B; process.env.A;"),
    ("b.js", "process.env.B; process.env.C;")]

theorem pair_plain : pair.Plain := by
  decide +kernel

theorem pair_succeeds (environment : Environment) (durationMs : Nat) :
    (Check.run lenient pair.files "/app" environment durationMs).outcome =
      .ok (Check.verdict lenient pair.files "/app" environment durationMs
        { files := pair.sources }) :=
  pair_plain.succeeds rfl rfl environment durationMs

end ScriptTree

end EnvAudit
