import EnvAudit.Proofs.Files.SameTree
import EnvAudit.Proofs.Walk.Visit

/-!
# Walks that look up every path afresh

A walk lists a directory by its path, looks up the path of each name from the root of the tree, and
goes down where that leads to a directory.  It knows neither where a directory stands nor how many
links have led there, so nothing keeps it from coming to a directory again.  Yet it goes down only
so far: on the way down, either the directories get deeper or another link is passed, and paths
through too many links lead nowhere.
-/

namespace EnvAudit

namespace FileSystem

/-- The names that are listed in what a path leads to. -/
def namesOf : Located → Except Failure (List String)
  | .file .. => .error .notADirectory
  | .directory place =>
      if place.here.readable then
        .ok (place.here.entries.map Prod.fst)
      else
        .error .accessDenied

/-- The names in the directory that a path leads to. -/
def list (files : FileSystem) (path : String) : Except Failure (List String) := do
  let (found, _) ← files.locate path
  namesOf found

/-- Directories stand at most so deep below the root of the tree. -/
def Within (files : FileSystem) (height : Nat) : Prop :=
  ∀ way place, files.Stands way place → way.length ≤ height

/-- No name in the tree holds a NUL character, so that every name can be a part of a path. -/
def NulFree (files : FileSystem) : Prop :=
  ∀ way place, files.Stands way place →
    ∀ item ∈ place.here.entries, item.1.toList.contains '\x00' = false

/-- A bound for how often a walk goes down from a directory, when `links` links may be followed from
there.  Behind every link the directories may have all their depth before them again. -/
def descentLimit (height links : Nat) (way : List String) : Nat :=
  links * (height + 1) + (height - way.length)

variable {files : FileSystem} {links left height : Nat} {place inner : Place}
variable {way : List String} {path name : String} {entry : Entry}

/-- With every directory on a way there are fewer entries below. -/
theorem Stands.length_add_sizeOf_le (stands : files.Stands way place) :
    way.length + sizeOf place.here.entries ≤ sizeOf files.root.entries := by
  induction stands with
  | top => simp [FileSystem.top]
  | @down way place name readable entries stands known ih =>
      have smaller := List.sizeOf_lt_of_mem (mem_of_lookup known)
      simp only [Prod.mk.sizeOf_spec, Entry.directory.sizeOf_spec] at smaller
      simp only [List.length_append, List.length_singleton, Place.down]
      omega

/-- The directories of a tree do not get deeper and deeper. -/
theorem exists_within (files : FileSystem) : ∃ height, files.Within height :=
  ⟨sizeOf files.root.entries, fun _ _ stands => by have := stands.length_add_sizeOf_le; omega⟩

theorem descentLimit_lt_of_link (fewer : left < links) (way next : List String) :
    descentLimit height left next < descentLimit height links way := by
  have apart : (left + 1) * (height + 1) ≤ links * (height + 1) := Nat.mul_le_mul_right _ fewer
  rw [Nat.succ_mul] at apart
  rw [descentLimit, descentLimit]
  omega

theorem resolve_link_lt {target : String} {found : Located}
    (leads : files.resolve links place (.link target) = .ok (found, left)) : left < links := by
  cases links with
  | zero => cases leads
  | succ links => exact Nat.lt_succ_of_le (follow_links_le leads)

/-- Behind an entry there is a directory that stands somewhere, from where a walk goes down less
often. -/
theorem Stands.resolve (stands : files.Stands way place) (within : files.Within height)
    (isName : IsName name) (known : place.here.entries.lookup name = some entry)
    (leads : files.resolve links place entry = .ok (.directory inner, left)) :
    ∃ next, files.Stands next inner ∧
      descentLimit height left next < descentLimit height links way := by
  cases entry with
  | file readable content => cases leads
  | directory readable entries =>
      cases leads
      have below := stands.down known
      have bounded := within _ _ below
      refine ⟨way ++ [name], below, ?_⟩
      simp only [descentLimit, List.length_append, List.length_singleton] at bounded ⊢
      omega
  | link target =>
      have fewer := resolve_link_lt leads
      rw [← follow_name isName known] at leads
      obtain ⟨next, nextStands⟩ := stands.follow leads
      exact ⟨next, nextStands, descentLimit_lt_of_link fewer way next⟩

theorem locate_of_long (nonempty : path ≠ "") (noNul : path.toList.contains '\x00' = false)
    (long : pathLimit < path.utf8ByteSize) : files.locate path = .error .nameTooLong := by
  rw [locate, if_neg nonempty, noNul, if_neg (by simp), if_pos long]

end FileSystem

theorem IsName.noNul_join {path name : String} (isName : IsName name)
    (noNul : path.toList.contains '\x00' = false)
    (nameNoNul : name.toList.contains '\x00' = false) :
    (Path.join path name).toList.contains '\x00' = false := by
  simp only [← Bool.not_eq_true, List.contains_iff_mem] at noNul nameNoNul ⊢
  rw [isName.join_eq, Trail.base]
  split <;> simp [String.toList_append, noNul, nameNoNul]

namespace Collector

/-- What a name in the directory at a path adds to a collection, where `walk` goes down. -/
def visitName (collector : Collector) (files : FileSystem) (rules : IgnoreRules)
    (walk : (path relative : String) → ExceptT ScanError Option Collection)
    (path relative name : String) : ExceptT ScanError Option Collection :=
  let entryPath := Path.join path name
  let entryRelative := relativePath relative name
  match files.locate entryPath with
  | .error failure => throw (.io entryPath failure)
  | .ok (target, _) =>
      if rules.isIgnored entryRelative target.isDirectory then
        pure { ignored := 1 }
      else
        match target with
        | .directory _ => walk entryPath entryRelative
        | .file _ content => pure (collector.collectFile entryPath content.size)

def visitNames (collector : Collector) (files : FileSystem) (rules : IgnoreRules)
    (walk : (path relative : String) → ExceptT ScanError Option Collection)
    (path relative : String) : List String → ExceptT ScanError Option Collection
  | [] => pure {}
  | name :: names => do
      let first ← collector.visitName files rules walk path relative name
      let rest ← collector.visitNames files rules walk path relative names
      return first ++ rest

/-- Collects from the directory at a path.  The walk is cut off where it would go down further than
`depth` allows, and then it gives nothing. -/
def walkDown (collector : Collector) (files : FileSystem) (rules : IgnoreRules) :
    (depth : Nat) → (path relative : String) → ExceptT ScanError Option Collection
  | 0, _, _ => (none : Option (Except ScanError Collection))
  | depth + 1, path, relative =>
      match files.list path with
      | .error failure => throw (.io path failure)
      | .ok names =>
          let walk := collector.walkDown files rules depth
          collector.visitNames files rules walk path relative names

/-- What the directory at a place adds, unless it is ignored. -/
def walkPlace (collector : Collector) (files : FileSystem) (rules : IgnoreRules) (links : Nat)
    (place : Place) (path relative : String) : Except ScanError Collection :=
  if place.here.readable then
    collector.walkEntries files rules links place path relative place.here.entries
  else
    .error (.io path .accessDenied)

/-- A walk that is not cut off. -/
def ended (result : Except ScanError Collection) : ExceptT ScanError Option Collection :=
  ExceptT.mk (some result)

theorem ended_append (first second : Except ScanError Collection) :
    (do
      let part ← ended first
      let rest ← ended second
      return part ++ rest) =
      ended (do
        let part ← first
        let rest ← second
        return part ++ rest) := by
  cases first with
  | error error => rfl
  | ok part =>
      cases second with
      | error error => rfl
      | ok rest => rfl

variable {collector : Collector} {files : FileSystem} {rules : IgnoreRules} {links height : Nat}
variable {place : Place} {path relative : String} {entries : List (String × Entry)}
variable {walk : (path relative : String) → ExceptT ScanError Option Collection}

/-- Wherever an entry leads down, a walk that goes down from the path of the entry gives what the
walk over the tree does. -/
def GoesDown (collector : Collector) (files : FileSystem) (rules : IgnoreRules) (links : Nat)
    (place : Place) (path relative : String)
    (walk : (path relative : String) → ExceptT ScanError Option Collection)
    (item : String × Entry) : Prop :=
  ∀ inner left, (Path.join path item.1).utf8ByteSize ≤ FileSystem.pathLimit →
    files.resolve links place item.2 = .ok (.directory inner, left) →
    walk (Path.join path item.1) (relativePath relative item.1) =
      ended (collector.walkPlace files rules left inner (Path.join path item.1)
        (relativePath relative item.1))

/-- A name adds what its entry does. -/
theorem visitName_of_goesDown {item : String × Entry}
    (reached : files.Reached links place path entries) (member : item ∈ entries)
    (noNul : (Path.join path item.1).toList.contains '\x00' = false)
    (goesDown : GoesDown collector files rules links place path relative walk item) :
    collector.visitName files rules walk path relative item.1 =
      ended (collector.visit files rules links place path relative item) := by
  have isName := reached.proper.here.named item (reached.listed item member)
  rw [visitName, visit]
  by_cases long : FileSystem.pathLimit < (Path.join path item.1).utf8ByteSize
  · rw [if_pos long, FileSystem.locate_of_long (isName.join_ne_empty path) noNul long]
    rfl
  · have short := Nat.le_of_not_lt long
    simp only [if_neg long, reached.locate_entry member noNul short]
    cases leads : files.resolve links place item.2 with
    | error failure => rfl
    | ok found =>
        obtain ⟨target, left⟩ := found
        cases target with
        | file readable content =>
            cases covered : rules.isIgnored (relativePath relative item.1) false with
            | false =>
                simp only [enter, Located.isDirectory, covered, Bool.false_eq_true, if_false]
                rfl
            | true =>
                simp only [enter, Located.isDirectory, covered, if_true]
                rfl
        | directory inner =>
            cases covered : rules.isIgnored (relativePath relative item.1) true with
            | false =>
                simp only [enter, Located.isDirectory, covered, Bool.false_eq_true, if_false]
                exact goesDown inner left short leads
            | true =>
                simp only [enter, Located.isDirectory, covered, if_true]
                rfl

theorem visitNames_of_goesDown (reached : files.Reached links place path entries)
    (noNul : ∀ item ∈ entries, (Path.join path item.1).toList.contains '\x00' = false)
    (goesDown : ∀ item ∈ entries,
      GoesDown collector files rules links place path relative walk item) :
    collector.visitNames files rules walk path relative (entries.map Prod.fst) =
      ended (collector.walkEntries files rules links place path relative entries) := by
  induction entries with
  | nil =>
      rw [walkEntries_nil]
      rfl
  | cons item others ih =>
      obtain ⟨itemNoNul, othersNoNul⟩ := List.forall_mem_cons.mp noNul
      obtain ⟨itemGoesDown, othersGoDown⟩ := List.forall_mem_cons.mp goesDown
      rw [List.map_cons, visitNames, walkEntries_cons,
        visitName_of_goesDown reached List.mem_cons_self itemNoNul itemGoesDown,
        ih reached.tail othersNoNul othersGoDown, ended_append]

/-- A walk that may go down often enough gives what the walk over the tree does. -/
theorem walkDown_of_reached {depth : Nat} {way : List String} (proper : files.Proper)
    (nulFree : files.NulFree) (within : files.Within height) (stands : files.Stands way place)
    (reached : files.Reached links place path place.here.entries)
    (noNul : path.toList.contains '\x00' = false)
    (deep : FileSystem.descentLimit height links way < depth) :
    collector.walkDown files rules depth path relative =
      ended (collector.walkPlace files rules links place path relative) := by
  induction depth generalizing links place path relative way with
  | zero => omega
  | succ depth ih =>
      have located := reached.located noNul
      have lists : files.list path = FileSystem.namesOf (.directory place) := by
        rw [FileSystem.list, located]
        rfl
      rw [walkDown, walkPlace, lists, FileSystem.namesOf]
      cases readable : place.here.readable with
      | false => rfl
      | true =>
          have noNuls : ∀ item ∈ place.here.entries,
              (Path.join path item.1).toList.contains '\x00' = false :=
            fun item member => (reached.proper.here.named item member).noNul_join noNul
              (nulFree way place stands item member)
          refine visitNames_of_goesDown reached noNuls ?_
          intro item member inner left short leads
          have isName := reached.proper.here.named item member
          have known := reached.proper.here.lookup_eq_some_iff.mpr member
          obtain ⟨next, innerStands, less⟩ := stands.resolve within isName known leads
          exact ih innerStands (reached.down proper member short leads) (noNuls item member)
            (by omega)

/-- A walk from a root goes down at most once for each link that it may pass and each directory on
the way between links, and it gives what the walk over the tree does. -/
theorem walkDown_eq_collect {depth : Nat} (proper : files.Proper) (nulFree : files.NulFree)
    (within : files.Within height) (root : String)
    (deep : (FileSystem.linkLimit + 1) * (height + 1) ≤ depth) :
    (collector.walkDown files rules depth root "").run =
      some (collector.collect files root rules) := by
  rw [Nat.succ_mul] at deep
  obtain ⟨depth, rfl⟩ : ∃ less, depth = less + 1 := ⟨depth - 1, by omega⟩
  rw [collect]
  cases located : files.locate root with
  | error failure =>
      rw [walkDown, FileSystem.list, located]
      rfl
  | ok found =>
      obtain ⟨target, links⟩ := found
      cases target with
      | file readable content =>
          rw [walkDown, FileSystem.list, located]
          rfl
      | directory place =>
          obtain ⟨_, noNul, ends⟩ := FileSystem.locate_eq_ok located
          have start : files.Stands [] files.top := .top
          obtain ⟨way, stands⟩ := start.follow ends
          have few := FileSystem.follow_links_le ends
          have shallow : FileSystem.descentLimit height links way < depth + 1 := by
            have most : links * (height + 1) ≤ FileSystem.linkLimit * (height + 1) :=
              Nat.mul_le_mul_right _ few
            rw [FileSystem.descentLimit]
            omega
          exact walkDown_of_reached proper nulFree within stands (.of_located proper located) noNul
            shallow

end Collector

end EnvAudit
