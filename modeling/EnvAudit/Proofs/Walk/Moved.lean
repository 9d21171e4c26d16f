import EnvAudit.Proofs.Except
import EnvAudit.Proofs.Files.SameTree
import EnvAudit.Proofs.Ignore.Layers
import EnvAudit.Proofs.Walk.Stops

/-!
# Walks from two roots

A walk knows an entry by two paths: the one that leads there from the root, and the one below the
root, by which the rules decide.  Where two roots have the same tree below them, and the rules see
the paths below both of them as they are, walks from them collect the same, each with the paths of
its own root.
-/

namespace EnvAudit

/-- A path belongs to a root as another path belongs to another root. -/
inductive MovedPath (root other : String) : String → String → Prop
  | root : MovedPath root other root other
  | below (behind : String) :
      MovedPath root other (Path.join root behind) (Path.join other behind)

namespace Trail

variable {names : List String}

/-- The path below a root begins with a name, and then there is nothing or a slash. -/
theorem relative_starts (areNames : ∀ name ∈ names, IsName name) (nonempty : names ≠ []) :
    ∃ name rest, IsName name ∧ (relative names).toList = name.toList ++ rest ∧
      (rest = [] ∨ rest.head? = some '/') := by
  cases names with
  | nil => exact absurd rfl nonempty
  | cons name others =>
      have isName := areNames name List.mem_cons_self
      cases others with
      | nil => exact ⟨name, [], isName, by simp [relative], .inl rfl⟩
      | cons next others =>
          exact ⟨name, '/' :: (relative (next :: others)).toList, isName, by simp [relative],
            .inr rfl⟩

theorem isAbsolute_relative (areNames : ∀ name ∈ names, IsName name) (nonempty : names ≠ []) :
    Path.isAbsolute (relative names) = false := by
  obtain ⟨name, rest, isName, letters, _⟩ := relative_starts areNames nonempty
  have plain := isName.plain
  rw [Path.isAbsolute, letters]
  cases known : name.toList with
  | nil => exact absurd (String.toList_eq_nil_iff.mp known) isName.nonempty
  | cons c others =>
      have different : c ≠ '/' := by
        rintro rfl
        simp [known] at plain
      simpa using different

theorem relative_undotted (areNames : ∀ name ∈ names, IsName name) (nonempty : names ≠ []) :
    ¬ ['.', '/'] <+: (relative names).toList := by
  obtain ⟨name, rest, isName, letters, _⟩ := relative_starts areNames nonempty
  have plain := isName.plain
  rw [letters]
  intro dotted
  match known : name.toList with
  | [] => exact isName.nonempty (String.toList_eq_nil_iff.mp known)
  | [c] =>
      obtain rfl : '.' = c := by simpa [known] using dotted.head
      exact isName.moves.1 (String.ext known)
  | c :: d :: others =>
      obtain ⟨rfl, rfl⟩ : '.' = c ∧ '/' = d := by simpa [known] using dotted
      exact plain (by simp [known])

/-- Names lead from two roots to paths that belong to each other. -/
theorem movedPath (areNames : ∀ name ∈ names, IsName name) (root other : String) :
    MovedPath root other (path root names) (path other names) := by
  by_cases nonempty : names = []
  · subst nonempty
    exact .root
  · have below := isAbsolute_relative areNames nonempty
    rw [path_eq areNames nonempty, path_eq areNames nonempty, ← Path.join_of_relative below,
      ← Path.join_of_relative below]
    exact .below _

/-- Names and one more lead from two roots to paths that belong to each other. -/
theorem movedPath_concat {name : String} (areNames : ∀ part ∈ names ++ [name], IsName part)
    (root other : String) :
    MovedPath root other (Path.join (path root names) name)
      (Path.join (path other names) name) := by
  rw [← path_concat, ← path_concat]
  exact movedPath areNames root other

end Trail

namespace Path

variable {name : String}

theorem fileName?_join (isName : IsName name) (path : String) :
    fileName? (join path name) = some name := by
  obtain ⟨before, _, _, _, joined⟩ := parts_join path isName
  have last : (before ++ [name]).reverse.find? (fun part => !isIdle part) = some name := by
    rw [List.reverse_append, List.reverse_singleton, List.singleton_append,
      List.find?_cons_of_pos (by simpa using isName.not_idle)]
  rw [fileName?, joined, last]
  split
  · rename_i up
    exact absurd (Option.some.inj up) isName.moves.2
  · rfl

theorem contains_join (isName : IsName name) (path : String) {c : Char} (notSlash : c ≠ '/') :
    (join path name).toList.contains c = (path.toList.contains c || name.toList.contains c) := by
  rw [isName.join_eq, Trail.base, Bool.eq_iff_iff]
  split <;> simp [String.toList_append, notSlash]

theorem contains_join_eq (isName : IsName name) {path otherPath : String} {c : Char}
    (notSlash : c ≠ '/') (same : path.toList.contains c = otherPath.toList.contains c) :
    (join path name).toList.contains c = (join otherPath name).toList.contains c := by
  rw [contains_join isName path notSlash, contains_join isName otherPath notSlash, same]

end Path

namespace IgnoreRules

variable {root relative : String}

/-- The rules of a tree see the path of an entry below its root as it is: the root is named from
the root of the file system, or as the working directory, or the path has one part only, or it does
not begin with the letters of the root. -/
def Keeps (root relative : String) : Prop :=
  Path.isAbsolute root = true ∨ root = "." ∨ '/' ∉ relative.toList ∨
    ¬ dropDot root.toList <+: relative.toList

theorem seen_of_keeps (keeps : Keeps root relative) (below : Path.isAbsolute relative = false)
    (undotted : ¬ ['.', '/'] <+: relative.toList) : seen root relative = relative.toUTF8 := by
  rcases keeps with absolute | here | single | apart
  · exact seen_of_plain (.inl absolute) below undotted
  · exact seen_of_plain (.inr here) below undotted
  · rw [seen, stripped, dropDot_of_plain undotted, String.ofList_toList]
    simp [single]
  · rw [seen, stripped, dropDot_of_plain undotted, String.ofList_toList]
    simp only [dropStart?_eq_none apart, ite_self]

theorem isIgnored_eq {rules otherRules : IgnoreRules} (same : rules.rules = otherRules.rules)
    (seesAlike : seen rules.root relative = seen otherRules.root relative) (isDirectory : Bool) :
    rules.isIgnored relative isDirectory = otherRules.isIgnored relative isDirectory := by
  obtain ⟨root, rules, sources⟩ := rules
  obtain ⟨otherRoot, _, otherSources⟩ := otherRules
  cases same
  rw [Bool.eq_iff_iff, isIgnored_iff, isIgnored_iff, seesAlike]

end IgnoreRules

/-- An error tells of a path as another error does of the path that belongs to another root. -/
inductive ScanError.Moved (root other : String) : ScanError → ScanError → Prop
  | io {path otherPath : String} (moved : MovedPath root other path otherPath) (failure : Failure) :
      ScanError.Moved root other (.io path failure) (.io otherPath failure)
  | unsupportedEncoding {path otherPath : String} (moved : MovedPath root other path otherPath)
      (encoding : String) : ScanError.Moved root other (.unsupportedEncoding path encoding)
        (.unsupportedEncoding otherPath encoding)
  | ignoreFile {path otherPath : String} (moved : MovedPath root other path otherPath)
      (failure : Failure) : ScanError.Moved root other
        (.ignoreFile path s!"{path}: {failure.message}")
        (.ignoreFile otherPath s!"{otherPath}: {failure.message}")
  | ignoreLine {path otherPath : String} (moved : MovedPath root other path otherPath)
      (fault : IgnoreFault) : ScanError.Moved root other (.ignoreFile path (fault.message path))
        (.ignoreFile otherPath (fault.message otherPath))
  | pattern (message : String) : ScanError.Moved root other
      (.ignoreFile IgnoreRules.extraSource message) (.ignoreFile IgnoreRules.extraSource message)

/-- Two files with the same bytes have paths that belong to each other. -/
structure SourceFile.Moved (files others : FileSystem) (root other : String)
    (file otherFile : SourceFile) : Prop where
  path : MovedPath root other file.path otherFile.path
  dialect : file.dialect = otherFile.dialect
  size : file.size = otherFile.size
  content : files.read file.path = others.read otherFile.path

/-- Two walks from their roots have collected the same. -/
structure Collection.Moved (files others : FileSystem) (root other : String)
    (collection otherCollection : Collection) : Prop where
  sources : List.Forall₂ (SourceFile.Moved files others root other) collection.files
    otherCollection.files
  oversized : List.Forall₂ (MovedPath root other) collection.oversized otherCollection.oversized
  ignored : collection.ignored = otherCollection.ignored

namespace Collection.Moved

variable {files others : FileSystem} {root other : String}
variable {collection otherCollection further otherFurther : Collection}

theorem empty : Collection.Moved files others root other {} {} :=
  ⟨.nil, .nil, rfl⟩

theorem append (moved : Collection.Moved files others root other collection otherCollection)
    (furtherMoved : Collection.Moved files others root other further otherFurther) :
    Collection.Moved files others root other (collection ++ further)
      (otherCollection ++ otherFurther) where
  sources := List.rel_append moved.sources furtherMoved.sources
  oversized := List.rel_append moved.oversized furtherMoved.oversized
  ignored := congrArg₂ (· + ·) moved.ignored furtherMoved.ignored

/-- What is collected one after the other belongs together if the parts do. -/
theorem paired {first second more otherMore : Except ScanError Collection}
    (firsts : Paired (ScanError.Moved root other) (Collection.Moved files others root other)
      first second)
    (rests : Paired (ScanError.Moved root other) (Collection.Moved files others root other)
      more otherMore) :
    Paired (ScanError.Moved root other) (Collection.Moved files others root other)
      (do
        let part ← first
        let rest ← more
        return part ++ rest)
      (do
        let part ← second
        let rest ← otherMore
        return part ++ rest) :=
  firsts.bind fun _ _ moved => rests.bind fun _ _ furtherMoved => .ok (moved.append furtherMoved)

end Collection.Moved

namespace Collector

variable {collector : Collector} {files others : FileSystem} {rules otherRules : IgnoreRules}
variable {root other name path otherPath : String} {links otherLinks left otherLeft : Nat}
variable {place otherPlace inner otherInner : Place} {trail : List String}
variable {entry otherEntry : Entry} {entries otherEntries : List (String × Entry)}

theorem dialectFor?_join (isName : IsName name) (path otherPath : String) :
    collector.dialectFor? (Path.join path name) =
      collector.dialectFor? (Path.join otherPath name) := by
  rw [dialectFor?, dialectFor?, Path.extension?, Path.extension?, Path.fileName?_join isName,
    Path.fileName?_join isName]

theorem collectFile_moved {size : Nat} (isName : IsName name)
    (moved : MovedPath root other (Path.join path name) (Path.join otherPath name))
    (content : files.read (Path.join path name) = others.read (Path.join otherPath name)) :
    Collection.Moved files others root other (collector.collectFile (Path.join path name) size)
      (collector.collectFile (Path.join otherPath name) size) := by
  rw [collectFile, collectFile, dialectFor?_join isName path otherPath]
  split
  · exact .empty
  · split
    · exact ⟨.nil, .cons moved .nil, rfl⟩
    · exact ⟨.cons ⟨moved, rfl, rfl, content⟩ .nil, .nil, rfl⟩

theorem trailNames_concat (trailNames : ∀ part ∈ trail, IsName part)
    (reached : files.Reached links place path ((name, entry) :: entries)) :
    ∀ part ∈ trail ++ [name], IsName part := by
  have isName : IsName name := reached.proper.here.named _ (reached.listed _ List.mem_cons_self)
  rw [List.forall_mem_append]
  exact ⟨trailNames, by simpa using isName⟩

/-- Visits collect the same where an entry leads to the same file. -/
theorem visit_moved_of_target (trailNames : ∀ part ∈ trail, IsName part)
    (fit : FileSystem.FitAlike (Path.join path name) (Path.join otherPath name))
    (moved : MovedPath root other (Path.join path name) (Path.join otherPath name))
    (decides : ∀ isDirectory, rules.isIgnored (Trail.relative (trail ++ [name])) isDirectory =
      otherRules.isIgnored (Trail.relative (trail ++ [name])) isDirectory)
    (nul : (Path.join path name).toList.contains '\x00' =
      (Path.join otherPath name).toList.contains '\x00')
    (reached : files.Reached links place path ((name, entry) :: entries))
    (otherReached : others.Reached otherLinks otherPlace otherPath
      ((name, otherEntry) :: otherEntries))
    (here : FileSystem.SameTarget (files.resolve links place entry)
      (others.resolve otherLinks otherPlace otherEntry)) :
    Paired (ScanError.Moved root other) (Collection.Moved files others root other)
      (collector.visit files rules links place path (Trail.relative trail) (name, entry))
      (collector.visit others otherRules otherLinks otherPlace otherPath (Trail.relative trail)
        (name, otherEntry)) := by
  have isName := reached.proper.here.named _ (reached.listed _ List.mem_cons_self)
  rw [visit, visit, relativePath_relative trailNames]
  by_cases long : FileSystem.pathLimit < (Path.join path name).utf8ByteSize
  · rw [if_pos long, if_pos (fit.mp long)]
    exact .error (.io moved _)
  · have otherShort := fit.not.mp long
    rw [if_neg long, if_neg otherShort]
    have content (readable : Bool) (bytes : ByteArray) (left otherLeft : Nat)
        (resolved : files.resolve links place entry = .ok (.file readable bytes, left))
        (otherResolved : others.resolve otherLinks otherPlace otherEntry =
          .ok (.file readable bytes, otherLeft)) :
        files.read (Path.join path name) = others.read (Path.join otherPath name) := by
      rw [reached.read_entry List.mem_cons_self (Nat.le_of_not_lt long) resolved,
        otherReached.read_entry List.mem_cons_self (Nat.le_of_not_lt otherShort) otherResolved, nul]
    generalize resolved : files.resolve links place entry = first at here content
    generalize otherResolved : others.resolve otherLinks otherPlace otherEntry = second
      at here content
    cases here with
    | error failure => exact .error (.io moved _)
    | file readable bytes left otherLeft =>
        simp only [enter, decides]
        split
        · exact .ok ⟨.nil, .nil, rfl⟩
        · exact .ok (collectFile_moved isName moved (content _ _ _ _ rfl rfl))

/-- Visits collect the same where an entry leads to directories with the same below them. -/
theorem visit_moved_of_directories (trailNames : ∀ part ∈ trail, IsName part)
    (fit : FileSystem.FitAlike (Path.join path name) (Path.join otherPath name))
    (moved : MovedPath root other (Path.join path name) (Path.join otherPath name))
    (decides : ∀ isDirectory, rules.isIgnored (Trail.relative (trail ++ [name])) isDirectory =
      otherRules.isIgnored (Trail.relative (trail ++ [name])) isDirectory)
    (resolved : files.resolve links place entry = .ok (.directory inner, left))
    (otherResolved : others.resolve otherLinks otherPlace otherEntry =
      .ok (.directory otherInner, otherLeft))
    (readable : inner.here.readable = otherInner.here.readable)
    (inside : (Path.join path name).utf8ByteSize ≤ FileSystem.pathLimit →
      (Path.join otherPath name).utf8ByteSize ≤ FileSystem.pathLimit →
      Paired (ScanError.Moved root other) (Collection.Moved files others root other)
        (collector.walkEntries files rules left inner (Path.join path name)
          (Trail.relative (trail ++ [name])) inner.here.entries)
        (collector.walkEntries others otherRules otherLeft otherInner (Path.join otherPath name)
          (Trail.relative (trail ++ [name])) otherInner.here.entries)) :
    Paired (ScanError.Moved root other) (Collection.Moved files others root other)
      (collector.visit files rules links place path (Trail.relative trail) (name, entry))
      (collector.visit others otherRules otherLinks otherPlace otherPath (Trail.relative trail)
        (name, otherEntry)) := by
  rw [visit, visit, relativePath_relative trailNames]
  by_cases long : FileSystem.pathLimit < (Path.join path name).utf8ByteSize
  · rw [if_pos long, if_pos (fit.mp long)]
    exact .error (.io moved _)
  · have otherShort := fit.not.mp long
    rw [if_neg long, if_neg otherShort]
    simp only [resolved, otherResolved, enter, decides, readable]
    split
    · exact .ok ⟨.nil, .nil, rfl⟩
    · split
      · exact inside (Nat.le_of_not_lt long) (Nat.le_of_not_lt otherShort)
      · exact .error (.io moved _)

/-- Walks over what is the same below two places collect the same. -/
theorem walkEntries_moved (proper : files.Proper) (otherProper : others.Proper)
    (same : FileSystem.SameBelow files others links otherLinks place otherPlace path otherPath
      entries otherEntries)
    (isPath : path = Trail.path root trail) (isOtherPath : otherPath = Trail.path other trail)
    (trailNames : ∀ part ∈ trail, IsName part)
    (decides : ∀ names, files.Holds links place entries names → ∀ isDirectory,
      rules.isIgnored (Trail.relative (trail ++ names)) isDirectory =
        otherRules.isIgnored (Trail.relative (trail ++ names)) isDirectory)
    (nul : path.toList.contains '\x00' = otherPath.toList.contains '\x00')
    (reached : files.Reached links place path entries)
    (otherReached : others.Reached otherLinks otherPlace otherPath otherEntries) :
    Paired (ScanError.Moved root other) (Collection.Moved files others root other)
      (collector.walkEntries files rules links place path (Trail.relative trail) entries)
      (collector.walkEntries others otherRules otherLinks otherPlace otherPath
        (Trail.relative trail) otherEntries) := by
  -- On the likeness of the trees: the trail grows with the way down.
  induction same generalizing trail with
  | nil =>
      rw [walkEntries_nil, walkEntries_nil]
      exact .ok .empty
  | @item links otherLinks place other path otherPath name _ _ _ _ fit here further ih =>
      have names := trailNames_concat trailNames reached
      have isName := names name (by simp)
      subst isPath isOtherPath
      rw [walkEntries_cons, walkEntries_cons]
      have further := fun decides =>
        ih rfl rfl trailNames decides nul reached.tail otherReached.tail
      refine Collection.Moved.paired ?_ (further ?_)
      · exact visit_moved_of_target trailNames fit (Trail.movedPath_concat names root _)
          (decides [name] (.here List.mem_cons_self))
          (Path.contains_join_eq isName (by decide) nul) reached otherReached here
      · exact fun names holds => decides names (holds.mono fun _ => List.mem_cons_of_mem _)
  | @directory links otherLinks left otherLeft place other inner otherInner path otherPath name _ _
      _ _ fit resolved otherResolved readable inside further insideIh ih =>
      have names := trailNames_concat trailNames reached
      have isName := names name (by simp)
      subst isPath isOtherPath
      rw [walkEntries_cons, walkEntries_cons]
      have further := fun decides =>
        ih rfl rfl trailNames decides nul reached.tail otherReached.tail
      refine Collection.Moved.paired ?_ (further ?_)
      · refine visit_moved_of_directories trailNames fit (Trail.movedPath_concat names root _)
          (decides [name] (.here List.mem_cons_self)) resolved otherResolved readable ?_
        intro short otherShort
        have down := reached.down proper List.mem_cons_self short resolved
        have otherDown := otherReached.down otherProper List.mem_cons_self otherShort
          otherResolved
        refine insideIh (Trail.path_concat _ _ _).symm (Trail.path_concat _ _ _).symm names ?_
          (Path.contains_join_eq isName (by decide) nul) down otherDown
        intro further holds
        rw [List.append_assoc]
        exact decides (name :: further) (.down List.mem_cons_self resolved holds)
      · exact fun names holds => decides names (holds.mono fun _ => List.mem_cons_of_mem _)

/-- Walks from two roots with the same tree below them collect the same. -/
theorem collect_moved (proper : files.Proper) (otherProper : others.Proper)
    (same : files.SameTree others root other)
    (decides : ∀ place links names, files.locate root = .ok (.directory place, links) →
      files.Holds links place place.here.entries names → ∀ isDirectory,
      rules.isIgnored (Trail.relative names) isDirectory =
        otherRules.isIgnored (Trail.relative names) isDirectory) :
    Paired (ScanError.Moved root other) (Collection.Moved files others root other)
      (collector.collect files root rules) (collector.collect others other otherRules) := by
  obtain ⟨place, links, otherPlace, otherLinks, located, otherLocated, readable, below⟩ := same
  have noNul := (FileSystem.locate_eq_ok located).2.1
  have otherNoNul := (FileSystem.locate_eq_ok otherLocated).2.1
  simp only [collect, located, otherLocated, readable]
  split
  · exact walkEntries_moved proper otherProper below (Trail.path_nil root).symm
      (Trail.path_nil other).symm (by simp)
      (fun names holds => decides place links names located holds) (noNul.trans otherNoNul.symm)
      (.of_located proper located) (.of_located otherProper otherLocated)
  · exact .error (.io .root _)

end Collector

end EnvAudit
