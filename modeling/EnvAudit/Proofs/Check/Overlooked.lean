import EnvAudit.Proofs.Check.Meaning
import EnvAudit.Proofs.Check.Outcome
import EnvAudit.Proofs.Walk.Alike

/-!
# What a check overlooks

What is left out cannot influence a check: trees that differ only below ignored
directories, or in the bytes of files that are ignored, have no wanted extension or are too
large, are judged alike, down to the events on the way and the errors.
-/

namespace EnvAudit

/-- Two trees have the same file at a path, or both have none there. -/
def FileSystem.AgreeAt (files others : FileSystem) (path : String) : Prop :=
  files.isFile path = others.isFile path ∧
    (files.isFile path = true → files.read path = others.read path)

namespace IgnoreRules

variable {files others : FileSystem} {root : String} {names : List String}

theorem readFile?_of_agreeAt {path : String} (agree : files.AgreeAt others path) :
    readFile? files path = readFile? others path := by
  obtain ⟨isFile, read⟩ := agree
  rw [readFile?, readFile?, ← isFile]
  split
  · rename_i known
    rw [read known]
  · rfl

theorem root_of_addFile {rules after : IgnoreRules} {name : String}
    (added : addFile files rules name = .ok after) : after.root = rules.root := by
  obtain ⟨content, _, added⟩ := bind_eq_ok_iff.mp added
  cases content <;> cases added <;> rfl

theorem foldlM_addFile_of_agreeAt
    (agree : ∀ name ∈ names, files.AgreeAt others (Path.join root name)) (rules : IgnoreRules)
    (atRoot : rules.root = root) :
    names.foldlM (addFile files) rules = names.foldlM (addFile others) rules := by
  -- Every name is joined to the root of the rules, which stays the same.
  induction names generalizing rules with
  | nil => rfl
  | cons name names ih =>
      obtain ⟨here, further⟩ := List.forall_mem_cons.mp agree
      have first : addFile files rules name = addFile others rules name := by
        rw [addFile, addFile, atRoot, readFile?_of_agreeAt here]
      rw [List.foldlM_cons, List.foldlM_cons, first]
      cases added : addFile others rules name with
      | error error => rfl
      | ok after => exact ih further after ((root_of_addFile added).trans atRoot)

/-- The rules of a tree depend on nothing in it but the ignore files. -/
theorem load_of_agreeAt (agree : ∀ name ∈ names, files.AgreeAt others (Path.join root name))
    (patterns : List String) : load files root names patterns = load others root names patterns := by
  rw [load, load, foldlM_addFile_of_agreeAt agree ⟨root, [], []⟩ rfl]

theorem passedOver_of_agreeAt
    (agree : ∀ name ∈ names, files.AgreeAt others (Path.join root name)) :
    passedOver files root names = passedOver others root names := by
  induction names with
  | nil => rfl
  | cons name names ih =>
      obtain ⟨here, further⟩ := List.forall_mem_cons.mp agree
      rw [passedOver, passedOver, readFile?_of_agreeAt here, ih further]

end IgnoreRules

namespace Check

variable {files others : FileSystem}

/-- The reading of source files depends on nothing but their content. -/
theorem readFiles_of_read {sources : List SourceFile}
    (same : ∀ file ∈ sources, files.read file.path = others.read file.path)
    (policy : ParseErrorPolicy) (progress : Progress) :
    readFiles files policy sources progress = readFiles others policy sources progress := by
  induction sources generalizing progress with
  | nil => rfl
  | cons file sources ih =>
      obtain ⟨here, further⟩ := List.forall_mem_cons.mp same
      have first : readFile files progress.session file = readFile others progress.session file := by
        rw [readFile, readFile, readSource, readSource, here]
      simp only [readFiles, first, ih further]

theorem judge_of_read {collection : Collection}
    (same : ∀ file ∈ collection.files, files.read file.path = others.read file.path)
    (config : Config) (root : String) (environment : Environment) (durationMs : Nat) :
    judge config files root environment durationMs collection =
      judge config others root environment durationMs collection := by
  simp only [judge, readFiles_of_read same]

variable {config : Config} {root : String}

theorem run_of_alike (proper : files.Proper) (otherProper : others.Proper)
    (ignoreFiles : ∀ name ∈ config.scan.effectiveIgnoreFiles,
      files.AgreeAt others (Path.join root name))
    (alike : ∀ rules, IgnoreRules.load files root config.scan.effectiveIgnoreFiles
        config.scan.extraIgnore = .ok rules →
      Collector.AlikeFrom (.ofConfig config.scan) rules files others root)
    (environment : Environment) (durationMs : Nat) :
    run config files root environment durationMs =
      run config others root environment durationMs := by
  have sameRules := IgnoreRules.load_of_agreeAt ignoreFiles config.scan.extraIgnore
  have sameSurvey : survey config files root = survey config others root := by
    rw [survey, survey, ← sameRules]
    cases loaded : IgnoreRules.load files root config.scan.effectiveIgnoreFiles
        config.scan.extraIgnore with
    | error error => rfl
    | ok rules => exact Collector.collect_of_alikeFrom (alike rules loaded)
  rw [run, run, ← sameSurvey, IgnoreRules.passedOver_of_agreeAt ignoreFiles]
  cases surveyed : survey config files root with
  | error error => rfl
  | ok collection =>
      obtain ⟨rules, _, _, loaded, _, collected⟩ := survey_eq_ok surveyed
      simp only [judge_of_read
        (Collector.read_of_alikeFrom proper otherProper (alike rules loaded) collected)]

end Check

/-- Trees that have the same ignore files and otherwise differ only in what the rules and the
settings leave out are judged alike: with the same events, and with the same error or the
same result but for the time that the check takes. -/
theorem check_of_alike {files others : FileSystem} (proper : files.Proper)
    (otherProper : others.Proper) {config : Config} {root : String}
    (ignoreFiles : ∀ name ∈ config.scan.effectiveIgnoreFiles,
      files.AgreeAt others (Path.join root name))
    (alike : ∀ rules, IgnoreRules.load files root config.scan.effectiveIgnoreFiles
        config.scan.extraIgnore = .ok rules →
      Collector.AlikeFrom (.ofConfig config.scan) rules files others root)
    (environment : Environment) (durationMs otherDurationMs : Nat) :
    let first := Check.run config files root environment durationMs
    let second := Check.run config others root environment otherDurationMs
    second.events = first.events ∧ second.passedOver = first.passedOver ∧
      (∀ error, first.outcome = .error error → second.outcome = .error error) ∧
      ∀ result, first.outcome = .ok result →
        second.outcome = .ok (result.lasting otherDurationMs) := by
  intro first second
  have same : second = { first with outcome := first.outcome.map (·.lasting otherDurationMs) } := by
    rw [← Check.run_lasting, Check.run_of_alike proper otherProper ignoreFiles alike]
  rw [same]
  refine ⟨rfl, rfl, fun error fails => ?_, fun result succeeds => ?_⟩
  · rw [fails]
    rfl
  · rw [succeeds]
    rfl

namespace VendorTrees

/-- A directory with one source, beside a directory and notes. -/
def app (vendor : Entry) (notes : ByteArray) : Directory :=
  ⟨true, [("v", vendor), ("notes", .file true notes), ("main.js", .file true ⟨#[120]⟩)]⟩

def place (root : Directory) (vendor : Entry) (notes : ByteArray) : Place :=
  ⟨app vendor notes, [root]⟩

def files (vendor : Entry) (notes : ByteArray) : FileSystem where
  root := ⟨true, [("app", .directory true (app vendor notes).entries)]⟩
  workingDirectory := "/"

def vendor : Entry := .directory true [("lib.js", .file true ⟨#[120]⟩)]

/-- A directory that nobody may read, with a link to itself. -/
def closed : Entry := .directory false [("lib.js", .link "lib.js")]

def first : FileSystem := files vendor ⟨#[]⟩

def second : FileSystem := files closed ⟨#[255]⟩

def config : Config := { scan := { extraIgnore := ["v/"] } }

def rules : IgnoreRules := ⟨"/app", [⟨[.leadingDirectories, .char 'v'], false, true⟩], []⟩

theorem isName {name : String} (known : name ∈ ["app", "v", "notes", "main.js", "lib.js"]) :
    IsName name := by
  simp only [List.mem_cons, List.not_mem_nil, or_false] at known
  rcases known with rfl | rfl | rfl | rfl | rfl <;> constructor <;> decide

theorem proper {vendor : Entry} (vendorProper : vendor.Proper) (notes : ByteArray) :
    (files vendor notes).Proper := by
  have appProper : Entry.Proper (.directory true (app vendor notes).entries) :=
    .directory (by simp [app]) (by simp [app, isName])
      (by simp [app, vendorProper, Entry.Proper.file])
  exact ⟨by simp [files], by simp [files, isName], by simp [files, appProper]⟩

theorem first_proper : first.Proper :=
  proper (.directory (by decide) (by simp [isName]) (by simp [Entry.Proper.file])) _

theorem second_proper : second.Proper :=
  proper (.directory (by decide) (by simp [isName]) (by simp [Entry.Proper.link])) _

theorem located (vendor : Entry) (notes : ByteArray) : (files vendor notes).locate "/app" =
    .ok (.directory (place (files vendor notes).root vendor notes), 40) :=
  FileSystem.locate_of_top "app" (by decide) (isName (by simp)) rfl (by decide) (by decide)

theorem missing {name : String} (usual : name ∈ ScanConfig.usualIgnoreFiles)
    (vendor : Entry) (notes : ByteArray) :
    (files vendor notes).isFile (Path.join "/app" name) = false := by
  refine FileSystem.isFile_join_of_missing (located vendor notes)
    (ScanConfig.isName_of_usual usual) ?_
  simp only [ScanConfig.usualIgnoreFiles, List.mem_cons, List.not_mem_nil, or_false] at usual
  rcases usual with rfl | rfl <;> rfl

theorem agreeAt : ∀ name ∈ config.scan.effectiveIgnoreFiles,
    first.AgreeAt second (Path.join "/app" name) := by
  intro name usual
  have here : first.isFile (Path.join "/app" name) = false := missing usual _ _
  have there : second.isFile (Path.join "/app" name) = false := missing usual _ _
  exact ⟨here.trans there.symm, fun known => absurd (here.symm.trans known) (by decide)⟩

theorem loaded : IgnoreRules.load first "/app" config.scan.effectiveIgnoreFiles
    config.scan.extraIgnore = .ok rules := by
  let none : IgnoreRules := ⟨"/app", [], []⟩
  have absent : ScanConfig.usualIgnoreFiles.foldlM (IgnoreRules.addFile first) none = .ok none :=
    IgnoreRules.foldlM_addFile_of_missing fun name usual => missing usual _ _
  have added : IgnoreRules.addPattern none "v/" = .ok rules := by cbv
  exact bind_eq_ok_iff.mpr ⟨none, absent, bind_eq_ok_iff.mpr ⟨rules, added, rfl⟩⟩

theorem alike : Collector.AlikeFrom (.ofConfig config.scan) rules first second "/app" := by
  refine .directory (located _ _) (located _ _) rfl (.item ?_ (.item ?_ (.item ?_ .nil)))
  · exact .ignoredDirectory (by decide +kernel)
  · exact .unwanted (by decide)
  · exact .file true _

end VendorTrees

theorem check_of_alike_vendor : VendorTrees.first.Proper ∧ VendorTrees.second.Proper ∧
    (∀ name ∈ VendorTrees.config.scan.effectiveIgnoreFiles,
      VendorTrees.first.AgreeAt VendorTrees.second (Path.join "/app" name)) ∧
    Collector.AlikeFrom (.ofConfig VendorTrees.config.scan) VendorTrees.rules VendorTrees.first
      VendorTrees.second "/app" ∧
    (Check.run VendorTrees.config VendorTrees.second "/app" .empty 0).events =
      (Check.run VendorTrees.config VendorTrees.first "/app" .empty 0).events := by
  have sameRules : ∀ rules, IgnoreRules.load VendorTrees.first "/app"
      VendorTrees.config.scan.effectiveIgnoreFiles VendorTrees.config.scan.extraIgnore =
        .ok rules →
      Collector.AlikeFrom (.ofConfig VendorTrees.config.scan) rules VendorTrees.first
        VendorTrees.second "/app" := by
    intro rules loaded
    cases VendorTrees.loaded.symm.trans loaded
    exact VendorTrees.alike
  exact ⟨VendorTrees.first_proper, VendorTrees.second_proper, VendorTrees.agreeAt,
    VendorTrees.alike,
    (check_of_alike VendorTrees.first_proper VendorTrees.second_proper VendorTrees.agreeAt
      sameRules .empty 0 0).1⟩

end EnvAudit
