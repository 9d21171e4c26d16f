import EnvAudit.Proofs.Except
import EnvAudit.Proofs.Files.Order

/-!
# Paths of entries

A walk goes down from entry to entry, while a path is followed from its first part on.
Both come to the same end: the path of an entry leads to what the entry leads to.
-/

namespace EnvAudit

namespace Path

theorem parts_concat (before : String) {name : String} (plain : '/' ∉ name.toList) :
    parts (before ++ "/" ++ name) = parts before ++ [name] := by
  have letters : (before ++ "/" ++ name).toList = before.toList ++ '/' :: name.toList := by
    simp [String.toList_append]
  rw [parts, Text.split, letters, Text.splitChars_append_separator,
    Text.splitChars_of_free plain]
  simp [parts, Text.split]

/-- A name behind a path comes after the parts of the path, of which an empty last one is
lost. -/
theorem parts_join (path : String) {name : String} (isName : IsName name) :
    ∃ before idle, (∀ part ∈ idle, isIdle part = true) ∧ parts path = before ++ idle ∧
      parts (join path name) = before ++ [name] := by
  rw [isName.join_eq, Trail.base]
  split
  · rename_i closed
    rw [Bool.or_eq_true, beq_iff_eq, beq_iff_eq] at closed
    rcases closed with rfl | closed
    · refine ⟨[], [""], by decide, by decide, ?_⟩
      rw [String.empty_append, parts, Text.split, Text.splitChars_of_free isName.plain]
      simp
    · -- The path ends with a slash, behind which there is an empty part.
      obtain ⟨before, ends⟩ := List.getLast?_eq_some_iff.mp closed
      have whole : path = String.ofList before ++ "/" ++ "" := by
        rw [String.append_empty, ← String.toList_inj, ends, String.toList_append]
        simp
      refine ⟨parts (.ofList before), [""], by decide, ?_, ?_⟩
      · rw [whole, parts_concat _ (by simp)]
      · rw [whole, String.append_empty, parts_concat _ isName.plain]
  · exact ⟨parts path, [], by simp, by simp, parts_concat path isName.plain⟩

theorem isAbsolute_append {path : String} (nonempty : path ≠ "") (more : String) :
    isAbsolute (path ++ more) = isAbsolute path := by
  rw [isAbsolute, isAbsolute, String.toList_append]
  cases letters : path.toList with
  | nil => exact absurd (String.toList_eq_nil_iff.mp letters) nonempty
  | cons c rest => rfl

theorem join_of_absolute {base path : String} (absolute : isAbsolute path = true) :
    join base path = path := by
  rw [join, if_pos absolute]

theorem base_append {path : String} (nonempty : path ≠ "") (before : String) :
    Trail.base (before ++ path) = before ++ Trail.base path := by
  have letters : path.toList ≠ [] := fun none => nonempty (String.toList_eq_nil_iff.mp none)
  have whole : before ++ path ≠ "" := by
    intro none
    have := congrArg String.toList none
    simp_all
  have last : (before ++ path).toList.getLast? = path.toList.getLast? := by
    rw [String.toList_append, List.getLast?_append, List.getLast?_eq_some_getLast letters]
    rfl
  rw [Trail.base, Trail.base, last]
  by_cases closed : path.toList.getLast? = some '/'
  · simp [closed]
  · simp [closed, whole, nonempty, String.append_assoc]

theorem base_ne_empty {path : String} (nonempty : path ≠ "") : Trail.base path ≠ "" := by
  rw [Trail.base]
  split
  · exact nonempty
  · simp

/-- A name goes behind a path in the same way before and after the path is completed. -/
theorem join_join {path name : String} (nonempty : path ≠ "") (isName : IsName name)
    (start : String) : join start (join path name) = join (join start path) name := by
  have joined : join path name = Trail.base path ++ name := isName.join_eq path
  have kind : isAbsolute (join path name) = isAbsolute path := by
    have based : isAbsolute (Trail.base path) = isAbsolute path := by
      rw [Trail.base]
      split
      · rfl
      · exact isAbsolute_append nonempty "/"
    rw [joined, isAbsolute_append (base_ne_empty nonempty), based]
  cases absolute : isAbsolute path with
  | true =>
      rw [join_of_absolute (kind.trans absolute), join_of_absolute absolute]
  | false =>
      rw [join_of_relative (kind.trans absolute), join_of_relative absolute, joined,
        isName.join_eq, base_append nonempty, String.append_assoc]

end Path

theorem IsName.not_idle {name : String} (isName : IsName name) : ¬Path.isIdle name = true := by
  simp [Path.isIdle, isName.nonempty, isName.moves.1]

theorem IsName.join_ne_empty {name : String} (isName : IsName name) (path : String) :
    Path.join path name ≠ "" := by
  rw [isName.join_eq]
  intro none
  have letters := congrArg String.toList none
  simp [isName.nonempty] at letters

namespace FileSystem

variable {files : FileSystem} {links left : Nat} {place inner : Place}

/-- What further parts of a path lead to from where the parts before have led. -/
def goOn (files : FileSystem) (parts : List String) :
    Located × Nat → Except Failure (Located × Nat)
  | (.file _ _, _) => .error .notADirectory
  | (.directory place, links) => files.follow links place parts

/-- The parts of a path are followed one after the other. -/
theorem follow_append {more : List String} (further : more ≠ []) (parts : List String) :
    files.follow links place (parts ++ more) = files.follow links place parts >>= files.goOn more := by
  fun_induction FileSystem.follow files links place parts with
  | case1 links place => rfl
  | case2 links place part parts idle ih =>
      rw [List.cons_append, FileSystem.follow, if_pos idle, ih]
  | case3 links place parts idle ih =>
      rw [List.cons_append, FileSystem.follow, if_neg idle, if_pos rfl, ih]
  | case4 links place part parts idle notUp unknown =>
      rw [List.cons_append, FileSystem.follow, if_neg idle, if_neg notUp, unknown]
      rfl
  | case5 links place part parts idle notUp readable entries known ih =>
      rw [List.cons_append, FileSystem.follow, if_neg idle, if_neg notUp, known]
      exact ih
  -- A file may stand at the end of the first parts, and then nothing is behind it.
  | case6 links place part idle notUp readable content known =>
      rw [List.cons_append, List.nil_append, FileSystem.follow, if_neg idle, if_neg notUp, known]
      simp only [if_neg further]
      rfl
  | case7 links place part parts idle notUp readable content known others =>
      rw [List.cons_append, FileSystem.follow, if_neg idle, if_neg notUp, known]
      simp only [List.append_eq_nil_iff, others, false_and, if_false]
      rfl
  | case8 place part parts idle notUp target known =>
      rw [List.cons_append, FileSystem.follow, if_neg idle, if_neg notUp, known]
      rfl
  | case9 place part parts idle notUp target known links ih =>
      rw [List.cons_append, FileSystem.follow, if_neg idle, if_neg notUp, known]
      simp only
      rw [← List.append_assoc]
      exact ih

theorem follow_idle {parts : List String} (idle : ∀ part ∈ parts, Path.isIdle part = true) :
    files.follow links place parts = .ok (.directory place, links) := by
  induction parts with
  | nil => rw [FileSystem.follow]
  | cons part parts ih =>
      obtain ⟨first, others⟩ := List.forall_mem_cons.mp idle
      rw [FileSystem.follow, if_pos first, ih others]

/-- Idle parts at the end of a path to a directory can be left out. -/
theorem follow_of_append_idle {parts idle : List String}
    (idles : ∀ part ∈ idle, Path.isIdle part = true)
    (ends : files.follow links place (parts ++ idle) = .ok (.directory inner, left)) :
    files.follow links place parts = .ok (.directory inner, left) := by
  by_cases none : idle = []
  · rwa [none, List.append_nil] at ends
  · rw [follow_append none] at ends
    cases before : files.follow links place parts with
    | error failure =>
        rw [before] at ends
        cases ends
    | ok found =>
        obtain ⟨target, middle⟩ := found
        rw [before] at ends
        cases target with
        | file readable content => cases ends
        | directory other =>
            have same : files.goOn idle (.directory other, middle) =
                .ok (.directory other, middle) :=
              follow_idle idles
            exact same.symm.trans ends

theorem follow_name {name : String} {entry : Entry} (isName : IsName name)
    (known : place.here.entries.lookup name = some entry) :
    files.follow links place [name] = files.resolve links place entry := by
  rw [FileSystem.follow, if_neg isName.not_idle, if_neg isName.moves.2, known]
  cases entry with
  | file readable content => rfl
  | directory readable entries =>
      simp only [FileSystem.resolve]
      rw [FileSystem.follow]
  | link target =>
      cases links with
      | zero => rfl
      | succ links => simp only [FileSystem.resolve, List.append_nil]

theorem locate_eq_ok {path : String} {found : Located × Nat} (located : files.locate path = .ok found) :
    path ≠ "" ∧ path.toList.contains '\x00' = false ∧
      files.follow linkLimit files.top (Path.parts (Path.join files.workingDirectory path)) =
        .ok found := by
  rw [FileSystem.locate] at located
  split at located
  · cases located
  · rename_i nonempty
    split at located
    · cases located
    · rename_i noNul
      split at located
      · cases located
      · exact ⟨nonempty, by simpa using noNul, located⟩

theorem short_of_locate {path : String} {found : Located × Nat}
    (located : files.locate path = .ok found) : path.utf8ByteSize ≤ pathLimit := by
  rw [FileSystem.locate] at located
  split at located
  · cases located
  · split at located
    · cases located
    · split at located
      · cases located
      · rename_i short
        exact Nat.le_of_not_lt short

theorem locate_top (files : FileSystem) :
    files.locate "/" = .ok (.directory files.top, linkLimit) := by
  have parts : Path.parts (Path.join files.workingDirectory "/") = ["", ""] := by
    rw [Path.join_of_absolute (by decide)]
    decide
  rw [locate_of_parts (by decide) (by decide) (by decide) parts]
  exact follow_idle (by decide)

/-- Behind a path to a directory, a name is followed from there. -/
theorem follow_join {path name : String}
    (located : files.locate path = .ok (.directory place, links)) (isName : IsName name) :
    files.follow linkLimit files.top
        (Path.parts (Path.join files.workingDirectory (Path.join path name))) =
      files.follow links place [name] := by
  obtain ⟨nonempty, _, ends⟩ := locate_eq_ok located
  obtain ⟨before, idle, idles, parts, joined⟩ :=
    Path.parts_join (Path.join files.workingDirectory path) isName
  rw [parts] at ends
  rw [Path.join_join nonempty isName, joined, follow_append (by simp),
    follow_of_append_idle idles ends]
  rfl

/-- A path is no longer than one that goes on from it. -/
theorem size_le_join {path name : String} (isName : IsName name) :
    path.utf8ByteSize ≤ (Path.join path name).utf8ByteSize := by
  rw [isName.join_eq, Trail.base, String.utf8ByteSize_append]
  split
  · exact Nat.le_add_right _ _
  · rw [String.utf8ByteSize_append]
    omega

theorem noNul_of_join {path name : String} (isName : IsName name)
    (noNul : (Path.join path name).toList.contains '\x00' = false) :
    path.toList.contains '\x00' = false := by
  rw [← Bool.not_eq_true, List.contains_iff_mem] at noNul ⊢
  intro nul
  rw [isName.join_eq, Trail.base] at noNul
  split at noNul <;> simp [String.toList_append, nul] at noNul

/-- What a path leads to that goes on from another is in a directory that the other leads to. -/
theorem locate_of_join {path name : String} {found : Located × Nat} (nonempty : path ≠ "")
    (isName : IsName name) (located : files.locate (Path.join path name) = .ok found) :
    ∃ place links, files.locate path = .ok (.directory place, links) := by
  have short := Nat.le_trans (size_le_join isName) (short_of_locate located)
  obtain ⟨_, noNul, ends⟩ := locate_eq_ok located
  obtain ⟨before, idle, idles, parts, joined⟩ :=
    Path.parts_join (Path.join files.workingDirectory path) isName
  rw [Path.join_join nonempty isName, joined, follow_append (by simp)] at ends
  obtain ⟨⟨target, middle⟩, first, ends⟩ := bind_eq_ok_iff.mp ends
  cases target with
  | file readable content => cases ends
  | directory place =>
      refine ⟨place, middle, ?_⟩
      rw [locate_of_parts nonempty (noNul_of_join isName noNul) short rfl, parts]
      by_cases none : idle = []
      · rw [none, List.append_nil, first]
      · rw [follow_append none, first]
        exact follow_idle idles

/-- The path of an entry in a directory that a path leads to, leads to what the entry
leads to. -/
theorem locate_join {path name : String} {entry : Entry}
    (located : files.locate path = .ok (.directory place, links)) (isName : IsName name)
    (known : place.here.entries.lookup name = some entry)
    (noNul : (Path.join path name).toList.contains '\x00' = false)
    (short : (Path.join path name).utf8ByteSize ≤ pathLimit) :
    files.locate (Path.join path name) = files.resolve links place entry := by
  rw [locate_of_parts (isName.join_ne_empty path) noNul short rfl, follow_join located isName]
  exact follow_name isName known

/-- The path of a directory at the root leads there. -/
theorem locate_of_top {path : String} {readable : Bool} {entries : List (String × Entry)}
    (name : String) (joined : Path.join "/" name = path) (isName : IsName name)
    (known : files.root.entries.lookup name = some (.directory readable entries))
    (noNul : path.toList.contains '\x00' = false) (short : path.utf8ByteSize ≤ pathLimit) :
    files.locate path =
      .ok (.directory (files.top.down ⟨readable, entries⟩), linkLimit) := by
  subst joined
  rw [locate_join files.locate_top isName known noNul short, FileSystem.resolve]

/-- A path from the working directory leads to the same however it is spelled. -/
theorem locate_congr {path other : String} (nonempty : path ≠ "") (otherNonempty : other ≠ "")
    (noNul : path.toList.contains '\x00' = false)
    (otherNoNul : other.toList.contains '\x00' = false)
    (short : path.utf8ByteSize ≤ pathLimit) (otherShort : other.utf8ByteSize ≤ pathLimit)
    (same : Path.join files.workingDirectory path = Path.join files.workingDirectory other) :
    files.locate path = files.locate other := by
  rw [locate_of_parts nonempty noNul short rfl,
    locate_of_parts otherNonempty otherNoNul otherShort rfl, same]

/-- There is nothing behind a directory under a name that it does not list. -/
theorem unlocated_join_of_missing {path name : String}
    (located : files.locate path = .ok (.directory place, links)) (isName : IsName name)
    (missing : place.here.entries.lookup name = none) :
    ∀ found, files.locate (Path.join path name) ≠ .ok found := by
  intro target found
  obtain ⟨_, _, ends⟩ := locate_eq_ok found
  rw [follow_join located isName, FileSystem.follow, if_neg isName.not_idle, if_neg isName.moves.2,
    missing] at ends
  cases ends

theorem isFile_of_unlocated {path : String} (unlocated : ∀ found, files.locate path ≠ .ok found) :
    files.isFile path = false := by
  rw [isFile]
  cases located : files.locate path with
  | error failure => rfl
  | ok found => exact absurd located (unlocated found)

theorem isFile_join_of_missing {path name : String}
    (located : files.locate path = .ok (.directory place, links)) (isName : IsName name)
    (missing : place.here.entries.lookup name = none) :
    files.isFile (Path.join path name) = false :=
  isFile_of_unlocated (unlocated_join_of_missing located isName missing)

/-- Names lead to nothing from a path that leads to no directory. -/
theorem unlocated_below {path : String} {names : List String} (nonempty : path ≠ "")
    (elsewhere : ∀ place links, files.locate path ≠ .ok (.directory place, links))
    (areNames : ∀ name ∈ names, IsName name) (further : names ≠ []) :
    ∀ found, files.locate (Trail.path path names) ≠ .ok found := by
  induction names generalizing path with
  | nil => exact absurd rfl further
  | cons name others ih =>
      obtain ⟨isName, otherNames⟩ := List.forall_mem_cons.mp areNames
      have unlocated (found : Located × Nat) :
          files.locate (Path.join path name) ≠ .ok found := by
        intro located
        obtain ⟨place, links, located⟩ := locate_of_join nonempty isName located
        exact elsewhere place links located
      by_cases last : others = []
      · subst last
        exact unlocated
      · exact ih (isName.join_ne_empty path) (fun _ _ => unlocated _) otherNames last

/-- Names lead to nothing from a path that leads to nothing. -/
theorem unlocated_behind {path : String} {names : List String} (nonempty : path ≠ "")
    (unlocated : ∀ found, files.locate path ≠ .ok found)
    (areNames : ∀ name ∈ names, IsName name) :
    ∀ found, files.locate (Trail.path path names) ≠ .ok found := by
  by_cases here : names = []
  · subst here
    exact unlocated
  · exact unlocated_below nonempty (fun _ _ => unlocated _) areNames here

/-- A path leads to a place, unless no path can be like this, and the entries are some of those
that the place lists. -/
structure Reached (files : FileSystem) (links : Nat) (place : Place) (path : String)
    (entries : List (String × Entry)) : Prop where
  proper : place.Proper
  listed : ∀ item ∈ entries, item ∈ place.here.entries
  located : path.toList.contains '\x00' = false → files.locate path = .ok (.directory place, links)

namespace Reached

variable {path : String} {item : String × Entry} {entries : List (String × Entry)}

theorem of_located (proper : files.Proper)
    (located : files.locate path = .ok (.directory place, links)) :
    files.Reached links place path place.here.entries :=
  ⟨proper.locate located, fun _ member => member, fun _ => located⟩

theorem tail (reached : files.Reached links place path (item :: entries)) :
    files.Reached links place path entries :=
  ⟨reached.proper, fun other member => reached.listed other (List.mem_cons_of_mem _ member),
    reached.located⟩

theorem locate_entry (reached : files.Reached links place path entries) (member : item ∈ entries)
    (noNul : (Path.join path item.1).toList.contains '\x00' = false)
    (short : (Path.join path item.1).utf8ByteSize ≤ pathLimit) :
    files.locate (Path.join path item.1) = files.resolve links place item.2 := by
  have inPlace := reached.listed item member
  have isName := reached.proper.here.named item inPlace
  exact locate_join (reached.located (noNul_of_join isName noNul)) isName
    (reached.proper.here.lookup_eq_some_iff.mpr inPlace) noNul short

theorem down (reached : files.Reached links place path entries) (proper : files.Proper)
    (member : item ∈ entries) (short : (Path.join path item.1).utf8ByteSize ≤ pathLimit)
    (resolved : files.resolve links place item.2 = .ok (.directory inner, left)) :
    files.Reached left inner (Path.join path item.1) inner.here.entries where
  proper := proper.resolve reached.proper
    (reached.proper.here.inner item (reached.listed item member)) resolved
  listed _ inner := inner
  located noNul := (reached.locate_entry member noNul short).trans resolved

/-- A file that an entry leads to is the one that the path of the entry reads. -/
theorem read_entry (reached : files.Reached links place path entries) (member : item ∈ entries)
    (short : (Path.join path item.1).utf8ByteSize ≤ pathLimit) {readable : Bool}
    {content : ByteArray}
    (resolved : files.resolve links place item.2 = .ok (.file readable content, left)) :
    files.read (Path.join path item.1) =
      if (Path.join path item.1).toList.contains '\x00' then .error .nulInPath
      else contentOf (.file readable content) := by
  have isName := reached.proper.here.named item (reached.listed item member)
  rw [FileSystem.read]
  split
  · rename_i nul
    rw [FileSystem.locate, if_neg (isName.join_ne_empty path), if_pos nul]
    rfl
  · rename_i noNul
    rw [reached.locate_entry member (by simpa using noNul) short, resolved]
    rfl

end Reached

end FileSystem

end EnvAudit
