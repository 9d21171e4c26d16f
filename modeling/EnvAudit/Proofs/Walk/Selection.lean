import EnvAudit.Proofs.Dialect
import EnvAudit.Proofs.Files.Reached
import EnvAudit.Proofs.Walk.Success
import EnvAudit.Proofs.Walk.Ways
import Mathlib.Data.List.Perm.Basic
import Mathlib.Data.Set.Card

/-!
# What a walk selects

A walk over a tree where everything can be reached collects the files with a
wanted extension that clear ways lead to, each once, and parts them by size.  It
counts the ignored entries that are below no other ignored one.
-/

namespace EnvAudit

/-- The path is that of a file of the given size below a root, with an extension that
is wanted and known, and no entry on the way to it is ignored. -/
def Selected (config : ScanConfig) (files : FileSystem) (rules : IgnoreRules) (links : Nat)
    (place : Place) (root path : String) (size : Nat) : Prop :=
  ∃ names readable content left extension,
    files.Leads links place place.here.entries names (.file readable content) left ∧
      path = Trail.path root names ∧ size = content.size ∧
      Clear files rules links place [] place.here.entries names ∧
      Path.extension? path = some extension ∧
      extension.toLower ∈ config.effectiveExtensions ∧
      (Dialect.ofExtension? extension.toLower).isSome

/-- The names lead to an ignored entry, and none above it is ignored. -/
def Pruned (files : FileSystem) (rules : IgnoreRules) (links : Nat) (place : Place)
    (names : List String) : Prop :=
  ∃ target left, files.Leads links place place.here.entries names target left ∧
    Clear files rules links place [] place.here.entries names.dropLast ∧
    rules.isIgnored (Trail.relative names) target.isDirectory = true

/-- A walk stops at a file that is not ignored if a clear way leads there. -/
theorem stops_file_iff {files : FileSystem} {rules : IgnoreRules} {links : Nat} {place : Place}
    (proper : files.Proper) (placeProper : place.Proper) {names : List String} {readable : Bool}
    {content : ByteArray} :
    Stops files rules links place [] place.here.entries ⟨names, .file readable content, false⟩ ↔
      ∃ left, files.Leads links place place.here.entries names (.file readable content) left ∧
        Clear files rules links place [] place.here.entries names := by
  rw [Stops.iff_leads proper placeProper]
  constructor
  · rintro ⟨⟨left, leads⟩, clear, kept, _⟩
    exact ⟨left, leads,
      (Clear.iff_dropLast proper placeProper placeProper.here leads).mpr ⟨clear, kept⟩⟩
  · rintro ⟨left, leads, clear⟩
    obtain ⟨clear, kept⟩ :=
      (Clear.iff_dropLast proper placeProper placeProper.here leads).mp clear
    exact ⟨⟨left, leads⟩, clear, kept, fun _ => rfl⟩

theorem selected_iff {config : ScanConfig} {files : FileSystem} {rules : IgnoreRules}
    {links : Nat} {place : Place} {root path : String} {size : Nat} (proper : files.Proper)
    (placeProper : place.Proper) :
    Selected config files rules links place root path size ↔
      ∃ names readable content,
        Stops files rules links place [] place.here.entries
          ⟨names, .file readable content, false⟩ ∧
        path = Trail.path root names ∧ size = content.size ∧
        ((Collector.ofConfig config).dialectFor? path).isSome := by
  constructor
  · rintro ⟨names, readable, content, left, extension, leads, isPath, isSize, clear, known,
      wanted, dialect⟩
    obtain ⟨dialect, ofExtension⟩ := Option.isSome_iff_exists.mp dialect
    refine ⟨names, readable, content, (stops_file_iff proper placeProper).mpr ⟨left, leads, clear⟩,
      isPath, isSize, ?_⟩
    rw [Collector.dialectFor?_eq_some_iff.mpr ⟨extension, known, wanted, ofExtension⟩]
    rfl
  · rintro ⟨names, readable, content, stops, isPath, isSize, dialect⟩
    obtain ⟨left, leads, clear⟩ := (stops_file_iff proper placeProper).mp stops
    obtain ⟨dialect, isDialect⟩ := Option.isSome_iff_exists.mp dialect
    obtain ⟨extension, known, wanted, ofExtension⟩ :=
      Collector.dialectFor?_eq_some_iff.mp isDialect
    exact ⟨names, readable, content, left, extension, leads, isPath, isSize, clear, known, wanted,
      by rw [ofExtension]; rfl⟩

namespace Selected

variable {config : ScanConfig} {files : FileSystem} {rules : IgnoreRules} {links : Nat}
variable {place : Place} {root path : String} {size : Nat}

/-- The path of a selected file is that of one way only. -/
theorem way (proper : files.Proper) (placeProper : place.Proper) {names : List String}
    {target : Located} {left : Nat}
    (leads : files.Leads links place place.here.entries names target left)
    (selected : Selected config files rules links place root (Trail.path root names) size) :
    Clear files rules links place [] place.here.entries names ∧ size = target.size := by
  obtain ⟨others, readable, content, otherLeft, _, otherLeads, same, isSize, clear, _⟩ := selected
  have sameNames : names = others :=
    Trail.path_injective (leads.areNames proper placeProper placeProper.here)
      (otherLeads.areNames proper placeProper placeProper.here) leads.nonempty
      otherLeads.nonempty same
  subst sameNames
  obtain ⟨rfl, rfl⟩ := leads.unique proper placeProper placeProper.here otherLeads
  exact ⟨clear, isSize⟩

theorem size_unique (proper : files.Proper) (placeProper : place.Proper) {otherSize : Nat}
    (selected : Selected config files rules links place root path size)
    (again : Selected config files rules links place root path otherSize) :
    size = otherSize := by
  have ⟨names, readable, content, left, _, leads, isPath, isSize, _⟩ := again
  subst isPath
  rw [(way proper placeProper leads selected).2, isSize]
  rfl

/-- Nothing below an ignored directory is selected. -/
theorem not_of_ignored (proper : files.Proper) (placeProper : place.Proper)
    {way names : List String} {above target : Located} {middle left : Nat}
    (aboveLeads : files.Leads links place place.here.entries way above middle)
    (ignored : rules.isIgnored (Trail.relative way) above.isDirectory = true)
    (starts : way <+: names)
    (leads : files.Leads links place place.here.entries names target left) :
    ¬ Selected config files rules links place root (Trail.path root names) size := by
  intro selected
  have clear := (selected.way proper placeProper leads).1 way above middle starts aboveLeads
  exact absurd (ignored.symm.trans clear) (by simp)

end Selected

namespace Stop

variable {collector : Collector} {root : String} {stop : Stop}

theorem mem_files_contribution {file : SourceFile} :
    file ∈ (stop.contribution collector root).files ↔
      stop.ignored = false ∧ ∃ readable content, stop.target = .file readable content ∧
        file ∈ (collector.collectFile (Trail.path root stop.names) content.size).files := by
  rw [contribution]
  cases ignored : stop.ignored with
  | true => simp
  | false => cases target : stop.target <;> simp

theorem mem_oversized_contribution {path : String} :
    path ∈ (stop.contribution collector root).oversized ↔
      stop.ignored = false ∧ ∃ readable content, stop.target = .file readable content ∧
        path ∈ (collector.collectFile (Trail.path root stop.names) content.size).oversized := by
  rw [contribution]
  cases ignored : stop.ignored with
  | true => simp
  | false => cases target : stop.target <;> simp

theorem ignored_contribution :
    (stop.contribution collector root).ignored = if stop.ignored then 1 else 0 := by
  rw [contribution]
  cases ignored : stop.ignored with
  | true => rfl
  | false => cases target : stop.target <;> simp

/-- A stop contributes at most one path, its own. -/
theorem paths_contribution (collector : Collector) (root : String) (stop : Stop) :
    ((stop.contribution collector root).files.map SourceFile.path ++
      (stop.contribution collector root).oversized).Sublist [Trail.path root stop.names] := by
  rw [contribution]
  split
  · simp
  · split
    · rw [Collector.collectFile]
      split
      · simp
      · split <;> simp
    · simp

end Stop

theorem flatMap_sublist_map {α β : Type} {list : List α} {several : α → List β} {one : α → β}
    (few : ∀ item, (several item).Sublist [one item]) :
    (list.flatMap several).Sublist (list.map one) := by
  induction list with
  | nil => simp
  | cons item others ih => simpa using (few item).append ih

namespace Collector.IsLog

variable {config : ScanConfig} {files : FileSystem} {rules : IgnoreRules} {root : String}
variable {links : Nat} {place : Place} {collection : Collection} {log : List Stop}

/-- The paths of a log are different. -/
theorem paths_nodup (proper : files.Proper) (placeProper : place.Proper)
    (isLog : IsLog (.ofConfig config) root
      (Stops files rules links place [] place.here.entries) collection log) :
    (log.map fun stop => Trail.path root stop.names).Nodup := by
  have areNames : ∀ stop ∈ log, stop.names ≠ [] ∧ ∀ name ∈ stop.names, IsName name := by
    intro stop member
    obtain ⟨⟨left, leads⟩, _⟩ :=
      (Stops.iff_leads proper placeProper).mp ((isLog.complete stop).mp member)
    exact ⟨leads.nonempty, leads.areNames proper placeProper placeProper.here⟩
  have whole : (log.map fun stop => Trail.path root stop.names) =
      (log.map Stop.names).map (Trail.path root) := by
    simp
  rw [whole]
  apply List.Nodup.map_on _ isLog.distinct
  intro first firstIn second secondIn same
  obtain ⟨firstStop, firstStopIn, rfl⟩ := List.mem_map.mp firstIn
  obtain ⟨secondStop, secondStopIn, rfl⟩ := List.mem_map.mp secondIn
  exact Trail.path_injective (areNames _ firstStopIn).2 (areNames _ secondStopIn).2
    (areNames _ firstStopIn).1 (areNames _ secondStopIn).1 same

/-- No source file is collected twice. -/
theorem sources_nodup (proper : files.Proper) (placeProper : place.Proper)
    (isLog : IsLog (.ofConfig config) root
      (Stops files rules links place [] place.here.entries) collection log) :
    (collection.files.map SourceFile.path ++ collection.oversized).Nodup := by
  have sources := (isLog.paths_nodup proper placeProper).sublist
    (flatMap_sublist_map (Stop.paths_contribution (.ofConfig config) root))
  have ordered := List.flatMap_append_perm log
    (fun stop => (stop.contribution (.ofConfig config) root).files.map SourceFile.path)
    (fun stop => (stop.contribution (.ofConfig config) root).oversized)
  rw [isLog.gathers, Collection.files_gather, Collection.oversized_gather, List.map_flatMap,
    List.flatMap_map, List.flatMap_map]
  exact ordered.nodup_iff.mpr sources

theorem mem_files_iff (proper : files.Proper) (placeProper : place.Proper)
    (isLog : IsLog (.ofConfig config) root
      (Stops files rules links place [] place.here.entries) collection log) {file : SourceFile} :
    file ∈ collection.files ↔
      Selected config files rules links place root file.path file.size ∧
        file.size ≤ config.effectiveMaxFileSize ∧
        Dialect.ofPath? file.path = some file.dialect := by
  rw [isLog.gathers, Collection.files_gather, List.mem_flatMap]
  constructor
  · intro gathered
    obtain ⟨part, inParts, inPart⟩ := gathered
    obtain ⟨stop, inLog, rfl⟩ := List.mem_map.mp inParts
    obtain ⟨kept, readable, content, isFile, inFiles⟩ := Stop.mem_files_contribution.mp inPart
    obtain ⟨wanted, small, path, size⟩ := mem_files_collectFile.mp inFiles
    refine ⟨?_, size ▸ small, path ▸ ofPath?_of_dialectFor? wanted⟩
    rw [selected_iff proper placeProper]
    refine ⟨stop.names, readable, content, ?_, path, size, by simp [path, wanted]⟩
    rw [← isFile, ← kept]
    exact (isLog.complete stop).mp inLog
  · rintro ⟨selected, small, dialect⟩
    obtain ⟨names, readable, content, stops, path, size, wanted⟩ :=
      (selected_iff proper placeProper).mp selected
    obtain ⟨known, wanted⟩ := Option.isSome_iff_exists.mp wanted
    have same := (ofPath?_of_dialectFor? wanted).symm.trans dialect
    refine ⟨_, List.mem_map_of_mem ((isLog.complete _).mpr stops), ?_⟩
    rw [Stop.mem_files_contribution]
    refine ⟨rfl, readable, content, rfl, mem_files_collectFile.mpr ?_⟩
    rw [← path, ← size, wanted, same]
    exact ⟨rfl, small, rfl, rfl⟩

theorem mem_oversized_iff (proper : files.Proper) (placeProper : place.Proper)
    (isLog : IsLog (.ofConfig config) root
      (Stops files rules links place [] place.here.entries) collection log) {path : String} :
    path ∈ collection.oversized ↔
      ∃ size, Selected config files rules links place root path size ∧
        config.effectiveMaxFileSize < size := by
  rw [isLog.gathers, Collection.oversized_gather, List.mem_flatMap]
  constructor
  · intro gathered
    obtain ⟨part, inParts, inPart⟩ := gathered
    obtain ⟨stop, inLog, rfl⟩ := List.mem_map.mp inParts
    obtain ⟨kept, readable, content, isFile, inOversized⟩ :=
      Stop.mem_oversized_contribution.mp inPart
    obtain ⟨wanted, large, path⟩ := mem_oversized_collectFile.mp inOversized
    refine ⟨content.size, ?_, large⟩
    rw [selected_iff proper placeProper]
    refine ⟨stop.names, readable, content, ?_, path, rfl, by rw [path, wanted]⟩
    rw [← isFile, ← kept]
    exact (isLog.complete stop).mp inLog
  · rintro ⟨size, selected, large⟩
    obtain ⟨names, readable, content, stops, path, rfl, wanted⟩ :=
      (selected_iff proper placeProper).mp selected
    refine ⟨_, List.mem_map_of_mem ((isLog.complete _).mpr stops), ?_⟩
    rw [Stop.mem_oversized_contribution]
    exact ⟨rfl, readable, content, rfl, mem_oversized_collectFile.mpr ⟨path ▸ wanted, large, path⟩⟩

theorem mem_paths_iff (proper : files.Proper) (placeProper : place.Proper)
    (isLog : IsLog (.ofConfig config) root
      (Stops files rules links place [] place.here.entries) collection log) {path : String} :
    path ∈ collection.files.map SourceFile.path ↔
      ∃ size, Selected config files rules links place root path size ∧
        size ≤ config.effectiveMaxFileSize := by
  constructor
  · intro member
    obtain ⟨file, inFiles, rfl⟩ := List.mem_map.mp member
    obtain ⟨selected, small, _⟩ := (isLog.mem_files_iff proper placeProper).mp inFiles
    exact ⟨file.size, selected, small⟩
  · rintro ⟨size, selected, small⟩
    obtain ⟨_, _, _, _, _, _, wanted⟩ := (selected_iff proper placeProper).mp selected
    obtain ⟨dialect, isDialect⟩ := Option.isSome_iff_exists.mp wanted
    have inFiles : ⟨path, dialect, size⟩ ∈ collection.files :=
      (isLog.mem_files_iff proper placeProper).mpr
        ⟨selected, small, ofPath?_of_dialectFor? isDialect⟩
    exact List.mem_map_of_mem inFiles

theorem ignored_eq_length (isLog : IsLog (.ofConfig config) root
      (Stops files rules links place [] place.here.entries) collection log) :
    collection.ignored = (log.filter Stop.ignored).length := by
  have count (stops : List Stop) :
      (stops.map fun stop => (stop.contribution (.ofConfig config) root).ignored).sum =
        (stops.filter Stop.ignored).length := by
    induction stops with
    | nil => rfl
    | cons stop stops ih =>
        rw [List.map_cons, List.sum_cons, ih, Stop.ignored_contribution]
        cases ignored : stop.ignored with
        | true => simp [ignored, Nat.add_comm]
        | false => simp [ignored]
  rw [isLog.gathers, Collection.ignored_gather, List.map_map]
  exact count log

/-- The number of ignored entries counts the pruned ways. -/
theorem encard_pruned (proper : files.Proper) (placeProper : place.Proper)
    (isLog : IsLog (.ofConfig config) root
      (Stops files rules links place [] place.here.entries) collection log) :
    {names | Pruned files rules links place names}.encard = collection.ignored := by
  have listed : {names | Pruned files rules links place names} =
      (((log.filter Stop.ignored).map Stop.names).toFinset : Set (List String)) := by
    ext names
    simp only [Set.mem_ofPred_eq, List.coe_toFinset, List.mem_map, List.mem_filter]
    constructor
    · rintro ⟨target, left, leads, clear, covered⟩
      refine ⟨⟨names, target, true⟩, ⟨(isLog.complete _).mpr ?_, rfl⟩, rfl⟩
      rw [Stops.iff_leads proper placeProper]
      exact ⟨⟨left, leads⟩, clear, covered, by simp⟩
    · rintro ⟨stop, ⟨inLog, ignored⟩, rfl⟩
      obtain ⟨⟨left, leads⟩, clear, decided, _⟩ :=
        (Stops.iff_leads proper placeProper).mp ((isLog.complete stop).mp inLog)
      exact ⟨stop.target, left, leads, clear, decided.trans ignored⟩
  have distinct : ((log.filter Stop.ignored).map Stop.names).Nodup :=
    isLog.distinct.sublist (List.filter_sublist.map Stop.names)
  rw [listed, Set.encard_coe_eq_coe_finsetCard, List.toFinset_card_of_nodup distinct,
    List.length_map, isLog.ignored_eq_length]

end Collector.IsLog

namespace Collector

variable {collector : Collector} {files : FileSystem} {rules : IgnoreRules} {collection : Collection}
variable {file : SourceFile}

theorem dialectFor?_of_walkEntries {links : Nat} {place : Place} {path relative : String}
    {entries : List (String × Entry)}
    (walked : collector.walkEntries files rules links place path relative entries =
      .ok collection) (member : file ∈ collection.files) :
    collector.dialectFor? file.path = some file.dialect := by
  induction links, place, entries using FileSystem.descent_induction files
    generalizing path relative collection with
  | nil links place =>
      rw [walkEntries_nil] at walked
      cases walked
      cases member
  | cons links place name entry others inside ih =>
      rw [walkEntries_cons] at walked
      obtain ⟨first, visited, walked⟩ := bind_eq_ok_iff.mp walked
      obtain ⟨rest, walkedOthers, whole⟩ := bind_eq_ok_iff.mp walked
      cases whole
      rw [Collection.files_append, List.mem_append] at member
      rcases member with inFirst | inRest
      · obtain ⟨_, target, left, resolved, entered⟩ := visit_eq_ok_iff.mp visited
        cases target with
        | file readable content =>
            rw [enter] at entered
            split at entered <;> cases entered
            · cases inFirst
            · obtain ⟨wanted, _, isPath, _⟩ := mem_files_collectFile.mp inFirst
              exact isPath ▸ wanted
        | directory inner =>
            rw [enter] at entered
            split at entered
            · cases entered
              cases inFirst
            · split at entered
              · exact inside inner left resolved entered inFirst
              · cases entered
      · exact ih walkedOthers inRest

/-- A walk collects no files but those with a wanted extension. -/
theorem dialectFor?_of_collect {root : String}
    (collected : collector.collect files root rules = .ok collection)
    (member : file ∈ collection.files) :
    collector.dialectFor? file.path = some file.dialect := by
  rw [collect] at collected
  split at collected
  · cases collected
  · cases collected
  · split at collected
    · exact dialectFor?_of_walkEntries collected member
    · cases collected

end Collector

/-- Where everything below a root can be reached, a walk collects exactly the selected
files: the small ones with their dialects and sizes, and the large ones apart.
Each occurs once, and nothing below an ignored directory does. -/
theorem collect_exactly_selected (config : ScanConfig) (rules : IgnoreRules) {files : FileSystem}
    {root : String} {place : Place} {links : Nat} (proper : files.Proper)
    (located : files.locate root = .ok (.directory place, links))
    (accessible : files.Accessible links place root) :
    ∃ collection, (Collector.ofConfig config).collect files root rules = .ok collection ∧
      (∀ path, path ∈ collection.files.map SourceFile.path ∨ path ∈ collection.oversized ↔
        ∃ size, Selected config files rules links place root path size) ∧
      (∀ path size, Selected config files rules links place root path size →
        (path ∈ collection.oversized ↔ config.effectiveMaxFileSize < size) ∧
        (path ∈ collection.files.map SourceFile.path ↔ size ≤ config.effectiveMaxFileSize)) ∧
      (collection.files.map SourceFile.path ++ collection.oversized).Nodup ∧
      (∀ file ∈ collection.files, Dialect.ofPath? file.path = some file.dialect ∧
        Selected config files rules links place root file.path file.size) ∧
      {names | Pruned files rules links place names}.encard = collection.ignored ∧
      ∀ way directory middle names target left,
        files.Leads links place place.here.entries way (.directory directory) middle →
        rules.isIgnored (Trail.relative way) true = true → way <+: names →
        files.Leads links place place.here.entries names target left →
        Trail.path root names ∉ collection.files.map SourceFile.path ∧
          Trail.path root names ∉ collection.oversized := by
  have placeProper := proper.locate located
  have readable : place.here.readable = true := by
    cases accessible with
    | intro readable short resolved below => exact readable
  obtain ⟨collection, collected⟩ :
      ∃ collection, (Collector.ofConfig config).collect files root rules = .ok collection :=
    Collector.collect_ok_iff.mpr ⟨place, links, located, readable, .of_accessible accessible ""⟩
  obtain ⟨log, isLog⟩ := Collector.collect_log proper located collected
  have inFiles (path : String) : path ∈ collection.files.map SourceFile.path ↔
      ∃ size, Selected config files rules links place root path size ∧
        size ≤ config.effectiveMaxFileSize :=
    isLog.mem_paths_iff proper placeProper
  have inOversized (path : String) : path ∈ collection.oversized ↔
      ∃ size, Selected config files rules links place root path size ∧
        config.effectiveMaxFileSize < size :=
    isLog.mem_oversized_iff proper placeProper
  refine ⟨collection, collected, ?_, ?_, isLog.sources_nodup proper placeProper, ?_,
    isLog.encard_pruned proper placeProper, ?_⟩
  · intro path
    rw [inFiles, inOversized]
    constructor
    · rintro (⟨size, selected, _⟩ | ⟨size, selected, _⟩)
      · exact ⟨size, selected⟩
      · exact ⟨size, selected⟩
    · rintro ⟨size, selected⟩
      rcases Nat.lt_or_ge config.effectiveMaxFileSize size with large | small
      · exact .inr ⟨size, selected, large⟩
      · exact .inl ⟨size, selected, small⟩
  · intro path size selected
    rw [inFiles, inOversized]
    constructor
    · constructor
      · rintro ⟨other, again, large⟩
        rwa [selected.size_unique proper placeProper again]
      · exact fun large => ⟨size, selected, large⟩
    · constructor
      · rintro ⟨other, again, small⟩
        rwa [selected.size_unique proper placeProper again]
      · exact fun small => ⟨size, selected, small⟩
  · intro file member
    obtain ⟨selected, _, dialect⟩ := (isLog.mem_files_iff proper placeProper).mp member
    exact ⟨dialect, selected⟩
  · intro way directory middle names target left aboveLeads ignored starts leads
    rw [inFiles, inOversized]
    constructor
    · rintro ⟨size, selected, _⟩
      exact selected.not_of_ignored proper placeProper aboveLeads ignored starts leads
    · rintro ⟨size, selected, _⟩
      exact selected.not_of_ignored proper placeProper aboveLeads ignored starts leads

namespace SampleTree

/-- A directory that the rules leave out. -/
def vendor : Directory := ⟨true, [("lib.js", .file true ⟨#[120, 59]⟩)]⟩

/-- A directory with a source and a link to another that is large. -/
def app : Directory :=
  ⟨true, [("vendor", .directory true vendor.entries), ("alias.TS", .link "vendor/lib.js"),
    ("main.js", .file true ⟨#[120]⟩)]⟩

def files : FileSystem where
  root := ⟨true, [("app", .directory true app.entries)]⟩
  workingDirectory := "/"

def rules : IgnoreRules :=
  ⟨"/app", [⟨[.leadingDirectories, .char 'v', .anyBytes], false, true⟩], []⟩

def config : ScanConfig := { maxFileSize := some 1 }

def place : Place := ⟨app, [files.root]⟩

theorem isName {name : String} (known : name ∈ ["app", "vendor", "lib.js", "alias.TS", "main.js"]) :
    IsName name := by
  simp only [List.mem_cons, List.not_mem_nil, or_false] at known
  rcases known with rfl | rfl | rfl | rfl | rfl <;> constructor <;> decide

theorem proper : files.Proper := by
  have vendorProper : Entry.Proper (.directory true vendor.entries) :=
    .directory (by decide) (by simp [vendor, isName]) (by simp [vendor, Entry.Proper.file])
  have appProper : Entry.Proper (.directory true app.entries) :=
    .directory (by decide) (by simp [app, isName])
      (by simp [app, vendorProper, Entry.Proper.file, Entry.Proper.link])
  exact ⟨by decide, by simp [files, isName], by simp [files, appProper]⟩

theorem located : files.locate "/app" = .ok (.directory place, 40) :=
  FileSystem.locate_of_top "app" (by decide) (isName (by simp)) rfl (by decide) (by decide)

theorem accessible : files.Accessible 40 place "/app" := by
  have linked : files.resolve 40 place (.link "vendor/lib.js") =
      .ok (.file true ⟨#[120, 59]⟩, 39) := by
    have parts : Path.parts "vendor/lib.js" = ["vendor", "lib.js"] := by decide
    have start : Path.isAbsolute "vendor/lib.js" = false := by decide
    simp only [FileSystem.resolve, FileSystem.startOf, parts, start]
    simp [FileSystem.follow, Path.isIdle, place, app, vendor, Place.down]
  have inVendor : files.Accessible 40 (place.down vendor) "/app/vendor" := by
    refine .intro rfl ?_ ?_ ?_
    · intro item member
      obtain rfl := List.mem_singleton.mp member
      decide
    · simp [place, Place.down, vendor, FileSystem.resolve]
    · simp [place, Place.down, vendor, FileSystem.resolve]
  have joined : Path.join "/app" "vendor" = "/app/vendor" := by decide
  refine .intro rfl ?_ ?_ ?_
  · intro item member
    simp only [place, app, List.mem_cons, List.not_mem_nil, or_false] at member
    rcases member with rfl | rfl | rfl <;> decide
  · simp only [place, app, List.forall_mem_cons]
    exact ⟨⟨_, _, rfl⟩, ⟨_, _, linked⟩, ⟨_, _, rfl⟩, by simp⟩
  · simp only [place, app, List.forall_mem_cons]
    refine ⟨?_, ?_, ?_, by simp⟩
    · rintro inner left resolved
      cases resolved
      rw [joined]
      exact inVendor
    · intro inner left resolved
      cases linked.symm.trans resolved
    · simp [FileSystem.resolve]

theorem selected : Selected config files rules 40 place "/app" "/app/main.js" 1 := by
  have leads : files.Leads 40 place app.entries ["main.js"] (.file true ⟨#[120]⟩) 40 :=
    .last (List.mem_of_getElem? (i := 2) rfl) rfl
  have placeProper := proper.locate located
  have clear : Clear files rules 40 place [] place.here.entries ["main.js"] := by
    rw [Clear.iff_dropLast proper placeProper placeProper.here leads]
    exact ⟨.nil, by decide⟩
  exact ⟨["main.js"], true, _, 40, "js", leads, by decide, rfl, clear, by decide,
    by decide +kernel, by decide +kernel⟩

end SampleTree

theorem collect_exactly_selected_sample : SampleTree.files.Proper ∧
    SampleTree.files.locate "/app" = .ok (.directory SampleTree.place, 40) ∧
    SampleTree.files.Accessible 40 SampleTree.place "/app" ∧
    ∃ collection, (Collector.ofConfig SampleTree.config).collect SampleTree.files "/app"
        SampleTree.rules = .ok collection ∧
      "/app/main.js" ∈ collection.files.map SourceFile.path := by
  obtain ⟨collection, collected, _, parted, _⟩ := collect_exactly_selected SampleTree.config
    SampleTree.rules SampleTree.proper SampleTree.located SampleTree.accessible
  exact ⟨SampleTree.proper, SampleTree.located, SampleTree.accessible, collection, collected,
    (parted _ _ SampleTree.selected).2.mpr (by decide)⟩

end EnvAudit
