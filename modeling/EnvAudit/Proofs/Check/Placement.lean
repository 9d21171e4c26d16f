import EnvAudit.Proofs.Check.Meaning
import EnvAudit.Proofs.Check.Moved

/-!
# Where the root of a check is

A check does not depend on where its root is, nor on how the root is named, as long as the same tree
is seen from there.  Two things can come between: links on the way to the root count among those
that a path may lead through, and a root that is named from the working directory can be taken for
the beginning of a path below it.
-/

namespace EnvAudit

/-- Where two roots have the same tree below them, and the rules see the paths below both of them as
they are, a check from either tells the same and ends in the same way, but for the roots, the paths
below them and the time: with the same error, or with the same result. -/
theorem check_moved {files others : FileSystem} (proper : files.Proper)
    (otherProper : others.Proper) {root other : String} (same : files.SameTree others root other)
    (keeps : ∀ place links names, files.locate root = .ok (.directory place, links) →
      files.Holds links place place.here.entries names →
      IgnoreRules.Keeps root (Trail.relative names) ∧
        IgnoreRules.Keeps other (Trail.relative names))
    {config : Config} (elsewhere : ∀ name ∈ config.scan.effectiveIgnoreFiles,
      ¬ (∀ part ∈ Path.parts name, IsName part) →
        files.SameFile others (Path.join root name) (Path.join other name))
    (environment : Environment) (durationMs otherDurationMs : Nat) :
    Paired (ScanError.Moved root other) (Collection.Moved files others root other)
        (Check.survey config files root) (Check.survey config others other) ∧
      CheckRun.Moved root other (Check.run config files root environment durationMs)
        (Check.run config others other environment otherDurationMs) := by
  have sameFiles : ∀ name ∈ config.scan.effectiveIgnoreFiles,
      files.SameFile others (Path.join root name) (Path.join other name) := by
    intro name member
    by_cases areNames : ∀ part ∈ Path.parts name, IsName part
    · exact same.sameFile proper otherProper areNames
    · exact elsewhere name member areNames
  have surveyed : Paired (ScanError.Moved root other) (Collection.Moved files others root other)
      (Check.survey config files root) (Check.survey config others other) := by
    rw [Check.survey, Check.survey]
    refine (IgnoreRules.load_moved sameFiles config.scan.extraIgnore).bind ?_
    intro rules otherRules rulesMoved
    refine Collector.collect_moved proper otherProper same ?_
    intro place links names located holds isDirectory
    have placeProper := proper.locate located
    obtain ⟨nonempty, areNames⟩ := holds.areNames proper placeProper placeProper.here
    obtain ⟨keeps, otherKeeps⟩ := keeps place links names located holds
    have below := Trail.isAbsolute_relative areNames nonempty
    have undotted := Trail.relative_undotted areNames nonempty
    refine IgnoreRules.isIgnored_eq rulesMoved.rules ?_ isDirectory
    rw [rulesMoved.ownRoot, rulesMoved.otherRoot, IgnoreRules.seen_of_keeps keeps below undotted,
      IgnoreRules.seen_of_keeps otherKeeps below undotted]
  refine ⟨surveyed, ?_⟩
  rw [Check.run, Check.run]
  generalize Check.survey config files root = first at surveyed ⊢
  generalize Check.survey config others other = second at surveyed ⊢
  cases surveyed with
  | error related => exact ⟨IgnoreRules.passedOver_moved sameFiles, .nil, .error (.scan related)⟩
  | ok related =>
      have judged := Check.judge_moved related config environment durationMs otherDurationMs
      exact ⟨IgnoreRules.passedOver_moved sameFiles, judged.1, judged.2⟩

/-- Without ignore files, the rules of a tree are those of the patterns. -/
theorem IgnoreRules.load_of_unlisted {files : FileSystem} {root pattern : String} {place : Place}
    {links : Nat} {rules : IgnoreRules}
    (located : files.locate root = .ok (.directory place, links))
    (unlisted : ∀ name ∈ ScanConfig.usualIgnoreFiles, place.here.entries.lookup name = Option.none)
    (added : addPattern ⟨root, [], []⟩ pattern = .ok rules) :
    load files root ScanConfig.usualIgnoreFiles [pattern] = .ok rules := by
  have missing : ∀ name ∈ ScanConfig.usualIgnoreFiles,
      files.isFile (Path.join root name) = false := fun name usual =>
    FileSystem.isFile_join_of_missing located (ScanConfig.isName_of_usual usual)
      (unlisted name usual)
  have absent : ScanConfig.usualIgnoreFiles.foldlM (addFile files) ⟨root, [], []⟩ =
      .ok ⟨root, [], []⟩ :=
    foldlM_addFile_of_missing missing
  exact bind_eq_ok_iff.mpr ⟨_, absent, bind_eq_ok_iff.mpr ⟨_, added, rfl⟩⟩

namespace SpelledTwice

def lib : Directory := ⟨true, [("a.txt", .file true ⟨#[]⟩)]⟩

def app : Directory :=
  ⟨true, [("lib", .directory true lib.entries), ("main.txt", .file true ⟨#[120]⟩)]⟩

def work : Directory := ⟨true, [("app", .directory true app.entries)]⟩

def files : FileSystem where
  root := ⟨true, [("w", .directory true work.entries)]⟩
  workingDirectory := "/w"

def place : Place := (files.top.down work).down app

theorem isName {name : String} (known : name ∈ ["w", "app", "lib", "main.txt", "a.txt"]) :
    IsName name := by
  simp only [List.mem_cons, List.not_mem_nil, or_false] at known
  rcases known with rfl | rfl | rfl | rfl | rfl <;> constructor <;> decide

theorem proper : files.Proper := by
  have libProper : Entry.Proper (.directory true lib.entries) :=
    .directory (by decide) (by simp [lib, isName]) (by simp [lib, Entry.Proper.file])
  have appProper : Entry.Proper (.directory true app.entries) :=
    .directory (by decide) (by simp [app, isName]) (by simp [app, libProper, Entry.Proper.file])
  have workProper : Entry.Proper (.directory true work.entries) :=
    .directory (by decide) (by simp [work, isName]) (by simp [work, appProper])
  exact ⟨by decide, by simp [files, isName], by simp [files, workProper]⟩

theorem located : files.locate "/w/app" = .ok (.directory place, 40) := by
  have above : files.locate "/w" = .ok (.directory (files.top.down work), 40) :=
    FileSystem.locate_of_top "w" (by decide) (isName (by simp)) rfl (by decide) (by decide)
  have joined : Path.join "/w" "app" = "/w/app" := by decide
  rw [← joined, FileSystem.locate_join above (isName (by simp)) rfl (by decide) (by decide)]
  rfl

theorem located_relative : files.locate "app" = .ok (.directory place, 40) := by
  rw [← located]
  exact FileSystem.locate_congr (by decide) (by decide) (by decide) (by decide) (by decide)
    (by decide) (by decide)

theorem names_of_holds {names : List String}
    (holds : files.Holds 40 place place.here.entries names) :
    names ∈ [["lib"], ["lib", "a.txt"], ["main.txt"]] := by
  have entries : place.here.entries =
      [("lib", .directory true lib.entries), ("main.txt", .file true ⟨#[120]⟩)] := rfl
  rw [entries] at holds
  cases holds with
  | here member =>
      simp only [List.mem_cons, Prod.mk.injEq, List.not_mem_nil, or_false] at member
      rcases member with ⟨rfl, _⟩ | ⟨rfl, _⟩ <;> simp
  | down member resolved below =>
      simp only [List.mem_cons, Prod.mk.injEq, List.not_mem_nil, or_false] at member
      rcases member with ⟨rfl, rfl⟩ | ⟨rfl, rfl⟩
      · cases resolved
        cases below with
        | here member =>
            simp only [Place.down, lib, List.mem_singleton, Prod.mk.injEq] at member
            simp [member.1]
        | down member resolved _ =>
            simp only [Place.down, lib, List.mem_singleton, Prod.mk.injEq] at member
            rw [member.2] at resolved
            cases resolved
      · cases resolved

theorem sameTree : files.SameTree files "app" "/w/app" := by
  refine .of_place located_relative located fun names holds => ?_
  have known := names_of_holds holds
  simp only [List.mem_cons, List.not_mem_nil, or_false] at known
  rcases known with rfl | rfl | rfl <;> exact .of_short (by decide) (by decide)

theorem keeps (other : Place) (links : Nat) (names : List String)
    (again : files.locate "app" = .ok (.directory other, links))
    (holds : files.Holds links other other.here.entries names) :
    IgnoreRules.Keeps "app" (Trail.relative names) ∧
      IgnoreRules.Keeps "/w/app" (Trail.relative names) := by
  cases located_relative.symm.trans again
  refine ⟨.inr (.inr (.inr ?_)), .inl (by decide)⟩
  have known := names_of_holds holds
  simp only [List.mem_cons, List.not_mem_nil, or_false] at known
  rcases known with rfl | rfl | rfl <;> decide

end SpelledTwice

namespace ScriptTree

variable {tree other : ScriptTree} {way : List String} {place : Place}

/-- There is nothing to go down into in a directory of scripts. -/
theorem eq_top_of_stands (stands : tree.directory.alone.Stands way place) :
    place = tree.directory.alone.top := by
  induction stands with
  | top => rfl
  | down stands known ih =>
      subst ih
      obtain ⟨content, ⟨⟩⟩ := file_of_lookup known

theorem closed_directory (tree : ScriptTree) : tree.directory.Closed where
  relative way place name target stands known := by
    rw [eq_top_of_stands stands] at known
    obtain ⟨content, ⟨⟩⟩ := file_of_lookup known
  inside way place name target parts stands known := by
    rw [eq_top_of_stands stands] at known
    obtain ⟨content, ⟨⟩⟩ := file_of_lookup known

theorem exists_script_of_holds {links : Nat} {names : List String}
    (holds : tree.directory.alone.Holds links place tree.directory.entries names) :
    ∃ script ∈ tree.scripts, names = [script.1] := by
  cases holds with
  | here member =>
      obtain ⟨script, inTree, ⟨⟩⟩ := List.mem_map.mp member
      exact ⟨script, inTree, rfl⟩
  | down member resolved below =>
      obtain ⟨script, _, ⟨⟩⟩ := List.mem_map.mp member
      cases resolved

/-- Directories with the same scripts have the same tree below them. -/
theorem Plain.sameTree (plain : tree.Plain) (otherPlain : other.Plain)
    (same : other.scripts = tree.scripts) :
    tree.files.SameTree other.files tree.path other.path := by
  have equal : other.directory = tree.directory := by rw [directory, directory, same]
  refine .of_closed tree.closed_directory plain.proper plain.located otherPlain.located rfl equal ?_
  intro names holds
  obtain ⟨script, member, rfl⟩ := exists_script_of_holds holds
  exact .of_short (plain.fits script member).short
    (otherPlain.fits script (same ▸ member)).short

/-- The same scripts elsewhere. -/
def copy : ScriptTree := { pair with name := "copy" }

theorem copy_plain : copy.Plain := by
  decide +kernel

end ScriptTree

/-- The usual ignore files are named from the root of the tree. -/
theorem ScanConfig.parts_of_usual {name : String} (usual : name ∈ usualIgnoreFiles) :
    ∀ part ∈ Path.parts name, IsName part := by
  have isName := isName_of_usual usual
  have single : Path.parts name = [name] := by
    rw [Path.parts, Text.split, Text.splitChars_of_free isName.plain]
    simp
  rw [single]
  exact List.forall_mem_singleton.mpr isName

theorem check_moved_scripts :
    (SpelledTwice.files.SameTree SpelledTwice.files "app" "/w/app" ∧
      CheckRun.Moved "app" "/w/app" (Check.run {} SpelledTwice.files "app" .empty 0)
        (Check.run {} SpelledTwice.files "/w/app" .empty 0)) ∧
    ScriptTree.pair.files.SameTree ScriptTree.copy.files "/app" "/copy" ∧
      CheckRun.Moved "/app" "/copy"
        (Check.run ScriptTree.lenient ScriptTree.pair.files "/app" .empty 0)
        (Check.run ScriptTree.lenient ScriptTree.copy.files "/copy" .empty 1) := by
  have plain := ScriptTree.pair_plain
  have copyPlain := ScriptTree.copy_plain
  have copied : ScriptTree.pair.files.SameTree ScriptTree.copy.files "/app" "/copy" :=
    plain.sameTree copyPlain rfl
  have keeps {root : String} (absolute : Path.isAbsolute root = true) (path : String) :
      IgnoreRules.Keeps root path := .inl absolute
  refine ⟨⟨SpelledTwice.sameTree, ?_⟩, copied, ?_⟩
  · exact (check_moved SpelledTwice.proper SpelledTwice.proper SpelledTwice.sameTree
      SpelledTwice.keeps (fun _ usual other => absurd (ScanConfig.parts_of_usual usual) other)
      .empty 0 0).2
  · exact (check_moved plain.files_proper copyPlain.files_proper copied
      (fun _ _ names _ _ => ⟨keeps (by decide) _, keeps (by decide) _⟩)
      (fun _ usual other => absurd (ScanConfig.parts_of_usual usual) other) .empty 0 1).2

namespace LinkedRoot

/-- A way through as many links as may be followed. -/
def way : List String := List.replicate 39 "a" ++ ["t"]

/-- A directory with a link to itself, and one along a long way through the first. -/
def looped : Directory :=
  ⟨true, [("a", .link "."), ("deep", .link ("/".intercalate way)), ("t", .file true ⟨#[]⟩)]⟩

def files : FileSystem where
  root := ⟨true, [("d", .directory true looped.entries), ("r", .link "d")]⟩
  workingDirectory := "/"

def place : Place := files.top.down looped

def config : Config := { scan := { extraIgnore := ["a"] } }

def rules (root : String) : IgnoreRules :=
  ⟨root, [⟨[.leadingDirectories, .char 'a'], false, false⟩], []⟩

theorem isName {name : String} (known : name ∈ ["d", "r", "a", "deep", "t"]) : IsName name := by
  simp only [List.mem_cons, List.not_mem_nil, or_false] at known
  rcases known with rfl | rfl | rfl | rfl | rfl <;> constructor <;> decide

theorem parts_way : Path.parts ("/".intercalate way) = way := by
  decide +kernel

theorem follow_loop (links count : Nat) (parts : List String) :
    files.follow (links + count) place (List.replicate count "a" ++ parts) =
      files.follow links place parts := by
  have here : Path.parts "." = ["."] := by decide
  have relative : Path.isAbsolute "." = false := by decide
  induction count with
  | zero => rfl
  | succ count ih =>
      rw [List.replicate_succ, List.cons_append, FileSystem.follow, if_neg (by decide),
        if_neg (by decide)]
      have known : place.here.entries.lookup "a" = some (.link ".") := rfl
      rw [known]
      simp only [here, FileSystem.startOf, relative]
      rw [if_neg (by simp), List.singleton_append, FileSystem.follow, if_pos (by decide)]
      exact ih

theorem located : files.locate "/d" = .ok (.directory place, 40) :=
  FileSystem.locate_of_top "d" (by decide) (isName (by simp)) rfl (by decide) (by decide)

theorem located_link : files.locate "/r" = .ok (.directory place, 39) := by
  have joined : Path.join "/" "r" = "/r" := by decide
  have parts : Path.parts "d" = ["d"] := by decide
  have relative : Path.isAbsolute "d" = false := by decide
  have leads : files.resolve 40 files.top (.link "d") = .ok (.directory place, 39) := by
    simp only [FileSystem.resolve, FileSystem.startOf, parts, relative]
    rw [if_neg (by simp), FileSystem.follow, if_neg (by decide), if_neg (by decide)]
    have known : files.top.here.entries.lookup "d" = some (.directory true looped.entries) := rfl
    rw [known]
    simp only [FileSystem.follow]
    rfl
  rw [← joined, FileSystem.locate_join files.locate_top (isName (by simp)) rfl (by decide)
    (by decide)]
  exact leads

/-- The long way takes all links that may be followed. -/
theorem resolve_deep (links : Nat) :
    files.resolve (links + 40) place (.link ("/".intercalate way)) =
      .ok (.file true ⟨#[]⟩, links) := by
  have relative : Path.isAbsolute ("/".intercalate way) = false := by decide +kernel
  have known : place.here.entries.lookup "t" = some (.file true ⟨#[]⟩) := rfl
  simp only [FileSystem.resolve, FileSystem.startOf, relative, parts_way]
  rw [if_neg (by simp), way, follow_loop, FileSystem.follow, if_neg (by decide), if_neg (by decide),
    known]
  rfl

theorem resolve_deep_linked : files.resolve 39 place (.link ("/".intercalate way)) =
    .error .tooManyLinks := by
  have relative : Path.isAbsolute ("/".intercalate way) = false := by decide +kernel
  have known : place.here.entries.lookup "a" = some (.link ".") := rfl
  have split_way : way = List.replicate 38 "a" ++ ["a", "t"] := by decide
  have loop := follow_loop 0 38 ["a", "t"]
  rw [Nat.zero_add, ← split_way] at loop
  simp only [FileSystem.resolve, FileSystem.startOf, relative, parts_way]
  rw [if_neg (by simp), loop, FileSystem.follow, if_neg (by decide), if_neg (by decide), known]

theorem resolve_here (links : Nat) : files.resolve (links + 1) place (.link ".") =
    .ok (.directory place, links) := by
  have parts : Path.parts "." = ["."] := by decide
  have relative : Path.isAbsolute "." = false := by decide
  simp only [FileSystem.resolve, FileSystem.startOf, parts, relative]
  rw [if_neg (by simp), FileSystem.follow, if_pos (by decide), FileSystem.follow]

theorem loaded {root : String} {links : Nat}
    (located : files.locate root = .ok (.directory place, links)) :
    IgnoreRules.load files root config.scan.effectiveIgnoreFiles config.scan.extraIgnore =
      .ok (rules root) := by
  have added : IgnoreRules.addPattern ⟨root, [], []⟩ "a" = .ok (rules root) := by cbv
  exact IgnoreRules.load_of_unlisted located (by decide) added

theorem listed : place.here.entries =
    [("a", .link "."), ("deep", .link ("/".intercalate way)), ("t", .file true ⟨#[]⟩)] :=
  rfl

theorem collected : (Collector.ofConfig config.scan).collect files "/d" (rules "/d") =
    .ok { ignored := 1 } := by
  have covered : (rules "/d").isIgnored "a" true = true := by decide +kernel
  have clear : (rules "/d").isIgnored "deep" false = false ∧
      (rules "/d").isIgnored "t" false = false := by decide +kernel
  have unwanted : (Collector.ofConfig config.scan).collectFile "/d/deep" 0 = {} ∧
      (Collector.ofConfig config.scan).collectFile "/d/t" 0 = {} := by decide +kernel
  have joined : Path.join "/d" "a" = "/d/a" ∧ Path.join "/d" "deep" = "/d/deep" ∧
      Path.join "/d" "t" = "/d/t" := by decide
  have short : ¬ FileSystem.pathLimit < "/d/a".utf8ByteSize ∧
      ¬ FileSystem.pathLimit < "/d/deep".utf8ByteSize ∧
      ¬ FileSystem.pathLimit < "/d/t".utf8ByteSize := by decide
  have size : (ByteArray.mk #[]).size = 0 := rfl
  have leads : files.resolve 40 place (.link ".") = .ok (.directory place, 39) ∧
      files.resolve 40 place (.link ("/".intercalate way)) = .ok (.file true ⟨#[]⟩, 0) ∧
      files.resolve 40 place (.file true ⟨#[]⟩) = .ok (.file true ⟨#[]⟩, 40) :=
    ⟨resolve_here 39, resolve_deep 0, rfl⟩
  have readable : place.here.readable = true := rfl
  rw [Collector.collect, located]
  simp only [readable, if_true, listed, Collector.walkEntries_cons, Collector.walkEntries_nil,
    Collector.visit, joined, short, if_false, leads, Collector.enter, Collector.relativePath,
    covered, clear, size, unwanted, Bool.false_eq_true]
  rfl

theorem surveyed : Check.survey config files "/d" = .ok { ignored := 1 } :=
  bind_eq_ok_iff.mpr ⟨_, loaded located, collected⟩

theorem collected_linked : (Collector.ofConfig config.scan).collect files "/r" (rules "/r") =
    .error (.io "/r/deep" .tooManyLinks) := by
  have covered : (rules "/r").isIgnored "a" true = true := by decide +kernel
  have joined : Path.join "/r" "a" = "/r/a" ∧ Path.join "/r" "deep" = "/r/deep" := by decide
  have short : ¬ FileSystem.pathLimit < "/r/a".utf8ByteSize ∧
      ¬ FileSystem.pathLimit < "/r/deep".utf8ByteSize := by decide
  have leads : files.resolve 39 place (.link ".") = .ok (.directory place, 38) := resolve_here 38
  have readable : place.here.readable = true := rfl
  rw [Collector.collect, located_link]
  simp only [readable, if_true, listed, Collector.walkEntries_cons, Collector.visit, joined, short,
    if_false, leads, resolve_deep_linked, Collector.enter, Collector.relativePath, covered]
  rfl

theorem surveyed_linked :
    Check.survey config files "/r" = .error (.io "/r/deep" .tooManyLinks) := by
  rw [Check.survey, loaded located_link]
  exact collected_linked

end LinkedRoot

namespace NamesakeRoot

/-- A directory with a directory of its own name, which has one file. -/
def source : Directory := ⟨true, [("src", .directory true [("x", .file true ⟨#[]⟩)])]⟩

def work : Directory := ⟨true, [("src", .directory true source.entries)]⟩

def files : FileSystem where
  root := ⟨true, [("w", .directory true work.entries)]⟩
  workingDirectory := "/w"

def place : Place := (files.top.down work).down source

def config : Config := { scan := { extraIgnore := ["/x"] } }

def rules (root : String) : IgnoreRules := ⟨root, [⟨[.char 'x'], false, false⟩], []⟩

theorem located : files.locate "/w/src" = .ok (.directory place, 40) := by
  have above : files.locate "/w" = .ok (.directory (files.top.down work), 40) :=
    FileSystem.locate_of_top "w" (by decide) (by decide) rfl (by decide) (by decide)
  have joined : Path.join "/w" "src" = "/w/src" := by decide
  rw [← joined, FileSystem.locate_join above (by decide) rfl (by decide) (by decide)]
  rfl

theorem located_relative : files.locate "src" = .ok (.directory place, 40) := by
  rw [← located]
  exact FileSystem.locate_congr (by decide) (by decide) (by decide) (by decide) (by decide)
    (by decide) (by decide)

theorem loaded {root : String} (located : files.locate root = .ok (.directory place, 40)) :
    IgnoreRules.load files root config.scan.effectiveIgnoreFiles config.scan.extraIgnore =
      .ok (rules root) := by
  have added : IgnoreRules.addPattern ⟨root, [], []⟩ "/x" = .ok (rules root) := by cbv
  exact IgnoreRules.load_of_unlisted located (by decide) added

theorem surveyed : Check.survey config files "/w/src" = .ok {} := by
  have clear : (rules "/w/src").isIgnored "src" true = false ∧
      (rules "/w/src").isIgnored (Collector.relativePath "src" "x") false = false := by
    decide +kernel
  have unwanted : (Collector.ofConfig config.scan).collectFile "/w/src/src/x" 0 = {} := by
    decide +kernel
  have joined : Path.join "/w/src" "src" = "/w/src/src" ∧
      Path.join "/w/src/src" "x" = "/w/src/src/x" := by decide
  have short : ¬ FileSystem.pathLimit < "/w/src/src".utf8ByteSize ∧
      ¬ FileSystem.pathLimit < "/w/src/src/x".utf8ByteSize := by decide
  have first : Collector.relativePath "" "src" = "src" := by decide
  have size : (ByteArray.mk #[]).size = 0 := rfl
  refine bind_eq_ok_iff.mpr ⟨_, loaded located, ?_⟩
  rw [Collector.collect, located]
  simp only [place, source, Place.down, if_true, Collector.walkEntries_cons,
    Collector.walkEntries_nil, Collector.visit, joined, short, if_false, FileSystem.resolve,
    Collector.enter, first, clear, Bool.false_eq_true, size, unwanted]
  rfl

/-- The rule for a file at the root catches the one below, whose path begins with the root. -/
theorem surveyed_relative : Check.survey config files "src" = .ok { ignored := 1 } := by
  have clear : (rules "src").isIgnored "src" true = false := by decide +kernel
  have covered : (rules "src").isIgnored (Collector.relativePath "src" "x") false = true := by
    decide +kernel
  have joined : Path.join "src" "src" = "src/src" ∧ Path.join "src/src" "x" = "src/src/x" := by
    decide
  have short : ¬ FileSystem.pathLimit < "src/src".utf8ByteSize ∧
      ¬ FileSystem.pathLimit < "src/src/x".utf8ByteSize := by decide
  have first : Collector.relativePath "" "src" = "src" := by decide
  refine bind_eq_ok_iff.mpr ⟨_, loaded located_relative, ?_⟩
  rw [Collector.collect, located_relative]
  simp only [place, source, Place.down, if_true, Collector.walkEntries_cons,
    Collector.walkEntries_nil, Collector.visit, joined, short, if_false, FileSystem.resolve,
    Collector.enter, first, clear, covered, Bool.false_eq_true]
  rfl

end NamesakeRoot

/-- Two roots lead to one directory, and still checks from them end differently: where the link on
the way to one of them is one too many, and where a path below a root begins with the root. -/
theorem check_not_moved :
    (LinkedRoot.files.locate "/d" = .ok (.directory LinkedRoot.place, 40) ∧
      LinkedRoot.files.locate "/r" = .ok (.directory LinkedRoot.place, 39) ∧
      (∃ result, (Check.run LinkedRoot.config LinkedRoot.files "/d" .empty 0).outcome =
        .ok result) ∧
      (Check.run LinkedRoot.config LinkedRoot.files "/r" .empty 0).outcome =
        .error (.scan (.io "/r/deep" .tooManyLinks))) ∧
    NamesakeRoot.files.locate "/w/src" = NamesakeRoot.files.locate "src" ∧
      (∃ result, (Check.run NamesakeRoot.config NamesakeRoot.files "/w/src" .empty 0).outcome =
        .ok result ∧ result.statistics.entriesIgnored = 0) ∧
      ∃ result, (Check.run NamesakeRoot.config NamesakeRoot.files "src" .empty 0).outcome =
        .ok result ∧ result.statistics.entriesIgnored = 1 := by
  refine ⟨⟨LinkedRoot.located, LinkedRoot.located_link, ?_, ?_⟩,
    NamesakeRoot.located.trans NamesakeRoot.located_relative.symm, ?_, ?_⟩
  · rw [Check.run, LinkedRoot.surveyed]
    exact ⟨_, rfl⟩
  · rw [Check.run, LinkedRoot.surveyed_linked]
  · rw [Check.run, NamesakeRoot.surveyed]
    exact ⟨_, rfl, rfl⟩
  · rw [Check.run, NamesakeRoot.surveyed_relative]
    exact ⟨_, rfl, rfl⟩

end EnvAudit
