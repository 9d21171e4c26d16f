import EnvAudit.Proofs.Files.Reached
import EnvAudit.Proofs.Files.Whereabouts

/-!
# One tree below two roots

Two roots, in one file system or in two, have the same tree below them if the same names lead to
the same.  This is so where both lead to one place with equally many links to go, and where the
directories that they lead to are equal and no link in them leads out of them.
-/

namespace EnvAudit

namespace FileSystem

/-- The names lead from entries of the directory at a place down to an entry, whatever that is. -/
inductive Holds (files : FileSystem) :
    (links : Nat) → Place → List (String × Entry) → List String → Prop
  | here {links : Nat} {place : Place} {entries : List (String × Entry)} {name : String}
      {entry : Entry} (member : (name, entry) ∈ entries) : Holds files links place entries [name]
  | down {links left : Nat} {place inner : Place} {entries : List (String × Entry)} {name : String}
      {entry : Entry} {names : List String} (member : (name, entry) ∈ entries)
      (resolved : files.resolve links place entry = .ok (.directory inner, left))
      (below : Holds files left inner inner.here.entries names) :
      Holds files links place entries (name :: names)

theorem Holds.mono {files : FileSystem} {links : Nat} {place : Place}
    {entries others : List (String × Entry)} {names : List String}
    (within : ∀ item ∈ entries, item ∈ others) (holds : files.Holds links place entries names) :
    files.Holds links place others names := by
  cases holds with
  | here member => exact .here (within _ member)
  | down member resolved below => exact .down (within _ member) resolved below

theorem Holds.areNames {files : FileSystem} {links : Nat} {place : Place}
    {entries : List (String × Entry)} {names : List String} (proper : files.Proper)
    (placeProper : place.Proper) (entriesProper : ProperEntries entries)
    (holds : files.Holds links place entries names) :
    names ≠ [] ∧ ∀ name ∈ names, IsName name := by
  induction holds with
  | here member => exact ⟨by simp, by simpa using entriesProper.named _ member⟩
  | down member resolved below ih =>
      have innerProper := proper.resolve placeProper (entriesProper.inner _ member) resolved
      exact ⟨by simp, List.forall_mem_cons.mpr
        ⟨entriesProper.named _ member, (ih innerProper innerProper.here).2⟩⟩

/-- Neither of two paths is too long, or both are. -/
def FitAlike (path other : String) : Prop :=
  pathLimit < path.utf8ByteSize ↔ pathLimit < other.utf8ByteSize

theorem FitAlike.of_short {path other : String} (short : path.utf8ByteSize ≤ pathLimit)
    (otherShort : other.utf8ByteSize ≤ pathLimit) : FitAlike path other :=
  iff_of_false (Nat.not_lt.mpr short) (Nat.not_lt.mpr otherShort)

/-- Two entries lead to the same file, or fail in the same way. -/
inductive SameTarget : Except Failure (Located × Nat) → Except Failure (Located × Nat) → Prop
  | error (failure : Failure) : SameTarget (.error failure) (.error failure)
  | file (readable : Bool) (content : ByteArray) (left otherLeft : Nat) :
      SameTarget (.ok (.file readable content, left)) (.ok (.file readable content, otherLeft))

/-- Two directories list the same names, which lead to the same, and so on below them. -/
inductive SameBelow (files others : FileSystem) :
    (links otherLinks : Nat) → (place other : Place) → (path otherPath : String) →
    (entries otherEntries : List (String × Entry)) → Prop
  | nil {links otherLinks : Nat} {place other : Place} {path otherPath : String} :
      SameBelow files others links otherLinks place other path otherPath [] []
  | item {links otherLinks : Nat} {place other : Place} {path otherPath name : String}
      {entry otherEntry : Entry} {entries otherEntries : List (String × Entry)}
      (fit : FitAlike (Path.join path name) (Path.join otherPath name))
      (here : SameTarget (files.resolve links place entry)
        (others.resolve otherLinks other otherEntry))
      (further : SameBelow files others links otherLinks place other path otherPath entries
        otherEntries) :
      SameBelow files others links otherLinks place other path otherPath
        ((name, entry) :: entries) ((name, otherEntry) :: otherEntries)
  | directory {links otherLinks left otherLeft : Nat} {place other inner otherInner : Place}
      {path otherPath name : String} {entry otherEntry : Entry}
      {entries otherEntries : List (String × Entry)}
      (fit : FitAlike (Path.join path name) (Path.join otherPath name))
      (resolved : files.resolve links place entry = .ok (.directory inner, left))
      (otherResolved : others.resolve otherLinks other otherEntry =
        .ok (.directory otherInner, otherLeft))
      (readable : inner.here.readable = otherInner.here.readable)
      (inside : SameBelow files others left otherLeft inner otherInner (Path.join path name)
        (Path.join otherPath name) inner.here.entries otherInner.here.entries)
      (further : SameBelow files others links otherLinks place other path otherPath entries
        otherEntries) :
      SameBelow files others links otherLinks place other path otherPath
        ((name, entry) :: entries) ((name, otherEntry) :: otherEntries)

/-- Two roots lead to directories with the same tree below them. -/
def SameTree (files others : FileSystem) (root other : String) : Prop :=
  ∃ place links otherPlace otherLinks,
    files.locate root = .ok (.directory place, links) ∧
      others.locate other = .ok (.directory otherPlace, otherLinks) ∧
      place.here.readable = otherPlace.here.readable ∧
      SameBelow files others links otherLinks place otherPlace root other place.here.entries
        otherPlace.here.entries

variable {files others : FileSystem} {links otherLinks left : Nat}
variable {place other inner : Place} {path otherPath root otherRoot name : String}
variable {entries otherEntries : List (String × Entry)} {names : List String}

namespace SameBelow

theorem names_eq (same : SameBelow files others links otherLinks place other path otherPath entries
    otherEntries) : entries.map Prod.fst = otherEntries.map Prod.fst := by
  induction same with
  | nil => rfl
  | item fit here further ih => simp [ih]
  | directory fit resolved otherResolved readable inside further insideIh ih => simp [ih]

/-- What is listed on one side is listed on the other under the same name. -/
theorem exists_mem (same : SameBelow files others links otherLinks place other path otherPath
    entries otherEntries) {item : String × Entry} (member : item ∈ entries) :
    ∃ otherEntry, (item.1, otherEntry) ∈ otherEntries ∧
      FitAlike (Path.join path item.1) (Path.join otherPath item.1) ∧
      (SameTarget (files.resolve links place item.2) (others.resolve otherLinks other otherEntry) ∨
        ∃ inner left otherInner otherLeft,
          files.resolve links place item.2 = .ok (.directory inner, left) ∧
          others.resolve otherLinks other otherEntry = .ok (.directory otherInner, otherLeft) ∧
          SameBelow files others left otherLeft inner otherInner (Path.join path item.1)
            (Path.join otherPath item.1) inner.here.entries otherInner.here.entries) := by
  induction same with
  | nil => cases member
  | item fit here further ih =>
      rcases List.mem_cons.mp member with rfl | member
      · exact ⟨_, List.mem_cons_self, fit, .inl here⟩
      · obtain ⟨otherEntry, otherMember, related⟩ := ih member
        exact ⟨otherEntry, List.mem_cons_of_mem _ otherMember, related⟩
  | directory fit resolved otherResolved readable inside further insideIh ih =>
      rcases List.mem_cons.mp member with rfl | member
      · exact ⟨_, List.mem_cons_self, fit, .inr ⟨_, _, _, _, resolved, otherResolved, inside⟩⟩
      · obtain ⟨otherEntry, otherMember, related⟩ := ih member
        exact ⟨otherEntry, List.mem_cons_of_mem _ otherMember, related⟩

/-- One place, with as many links to go, is the same from two paths. -/
theorem self (fits : ∀ names, files.Holds links place entries names →
      FitAlike (Trail.path path names) (Trail.path otherPath names)) :
    SameBelow files files links links place place path otherPath entries entries := by
  induction links, place, entries using descent_induction files generalizing path otherPath with
  | nil links place => exact .nil
  | cons links place name entry others inside ih =>
      have further := ih fun names holds =>
        fits names (holds.mono fun item member => List.mem_cons_of_mem _ member)
      have fit : FitAlike (Path.join path name) (Path.join otherPath name) :=
        fits [name] (.here List.mem_cons_self)
      cases resolved : files.resolve links place entry with
      | error failure => exact .item fit (resolved ▸ .error failure) further
      | ok found =>
          obtain ⟨target, left⟩ := found
          cases target with
          | file readable content => exact .item fit (resolved ▸ .file readable content _ _) further
          | directory inner =>
              refine .directory fit resolved resolved rfl (inside inner left resolved ?_) further
              intro names holds
              exact fits (name :: names) (.down List.mem_cons_self resolved holds)

end SameBelow

theorem SameTree.of_place (located : files.locate root = .ok (.directory place, links))
    (otherLocated : files.locate otherRoot = .ok (.directory place, links))
    (fits : ∀ names, files.Holds links place place.here.entries names →
      FitAlike (Trail.path root names) (Trail.path otherRoot names)) :
    files.SameTree files root otherRoot :=
  ⟨place, links, place, links, located, otherLocated, rfl, .self fits⟩

end FileSystem

/-- A directory as a file system of its own. -/
def Directory.alone (directory : Directory) : FileSystem where
  root := directory
  workingDirectory := "/"

/-- No link in a directory or below it leads out of the directory. -/
structure Directory.Closed (directory : Directory) : Prop where
  relative : ∀ way place name target, directory.alone.Stands way place →
    place.here.entries.lookup name = some (.link target) → Path.isAbsolute target = false
  inside : ∀ way place name target parts, directory.alone.Stands way place →
    place.here.entries.lookup name = some (.link target) →
    ¬ directory.alone.Reaches (way, Path.parts target) ([], ".." :: parts)

/-- A place in a directory, seen from above a place where the directory stands. -/
def Place.onto (place base : Place) : Place :=
  ⟨place.here, place.above ++ base.above⟩

def Located.onto (base : Place) : Located → Located
  | .file readable content => .file readable content
  | .directory place => .directory (place.onto base)

namespace FileSystem

variable {files others : FileSystem} {directory : Directory} {way : List String}
variable {links left : Nat} {place inner base otherBase : Place} {parts : List String}
variable {name path otherPath root otherRoot : String}
variable {entries : List (String × Entry)}

/-- Paths lead to where something stands. -/
theorem Stands.follow (stands : files.Stands way place)
    (ends : files.follow links place parts = .ok (.directory inner, left)) :
    ∃ next, files.Stands next inner := by
  fun_induction FileSystem.follow files links place parts generalizing way with
  | case1 links place =>
      cases ends
      exact ⟨way, stands⟩
  | case2 links place part parts idle ih => exact ih stands ends
  | case3 links place parts idle ih => exact ih stands.up ends
  | case4 => cases ends
  | case5 links place part parts busy notUp readable entries known ih =>
      exact ih (stands.down known) ends
  | case6 => cases ends
  | case7 => cases ends
  | case8 => cases ends
  | case9 place part parts busy notUp target known links ih => exact ih (stands.startOf target) ends

theorem Stands.up_onto (stands : files.Stands way place) (below : way ≠ []) :
    (place.onto base).up = place.up.onto base := by
  cases stands with
  | top => exact absurd rfl below
  | down stands known => rfl

/-- A path that stays in a closed directory leads to the same wherever the directory stands. -/
theorem follow_onto (closed : directory.Closed) (stands : directory.alone.Stands way place)
    (inside : ∀ further, ¬ directory.alone.Reaches (way, parts) ([], ".." :: further)) :
    files.follow links (place.onto base) parts =
      (directory.alone.follow links place parts).map fun found =>
        (found.1.onto base, found.2) := by
  fun_induction FileSystem.follow directory.alone links place parts generalizing way with
  | case1 links place =>
      rw [FileSystem.follow]
      rfl
  | case2 links place part parts idle ih =>
      rw [FileSystem.follow, if_pos idle]
      exact ih stands fun further reaches => inside further (.head (.idle idle) reaches)
  | case3 links place parts idle ih =>
      have below : way ≠ [] := by
        rintro rfl
        exact inside parts .refl
      rw [FileSystem.follow, if_neg idle, if_pos rfl, stands.up_onto below]
      exact ih stands.up fun further reaches => inside further (.head .up reaches)
  | case4 links place part parts busy notUp unknown =>
      rw [FileSystem.follow, if_neg busy, if_neg notUp, Place.onto, unknown]
      rfl
  | case5 links place part parts busy notUp readable entries known ih =>
      rw [FileSystem.follow, if_neg busy, if_neg notUp, Place.onto, known]
      exact ih (stands.down known) fun further reaches =>
        inside further (.head (.down busy notUp stands known) reaches)
  | case6 links place part busy notUp readable content known =>
      rw [FileSystem.follow, if_neg busy, if_neg notUp, Place.onto, known]
      rfl
  | case7 links place part parts busy notUp readable content known more =>
      rw [FileSystem.follow, if_neg busy, if_neg notUp, Place.onto, known]
      simp only [if_neg more]
      rfl
  | case8 place part parts busy notUp target known =>
      rw [FileSystem.follow, if_neg busy, if_neg notUp, Place.onto, known]
      rfl
  | case9 place part parts busy notUp target known links ih =>
      have relative := closed.relative way place part target stands known
      have start (tree : FileSystem) (current : Place) : tree.startOf current target = current := by
        rw [FileSystem.startOf, relative, if_neg (by simp)]
      have step : directory.alone.Step (way, part :: parts)
          (wayOf way target, Path.parts target ++ parts) :=
        .link busy notUp stands known
      rw [wayOf, relative, if_neg (by simp)] at step
      rw [FileSystem.follow, if_neg busy, if_neg notUp, Place.onto, known]
      simp only [start] at ih ⊢
      exact ih stands fun further reaches => inside further (.head step reaches)

theorem resolve_onto (files : FileSystem) (links : Nat) (base : Place) (closed : directory.Closed)
    (stands : directory.alone.Stands way place) {entry : Entry}
    (known : place.here.entries.lookup name = some entry) :
    files.resolve links (place.onto base) entry =
      (directory.alone.resolve links place entry).map fun found =>
        (found.1.onto base, found.2) := by
  cases entry with
  | file readable content => rfl
  | directory readable entries => rfl
  | link target =>
      cases links with
      | zero => rfl
      | succ links =>
          have start (tree : FileSystem) (current : Place) :
              tree.startOf current target = current := by
            rw [FileSystem.startOf, closed.relative way place name target stands known,
              if_neg (by simp)]
          simp only [FileSystem.resolve, start]
          exact follow_onto closed stands fun further =>
            closed.inside way place name target further stands known

/-- Closed directories that are equal have the same below them wherever they stand. -/
theorem SameBelow.of_closed (closed : directory.Closed) (proper : directory.alone.Proper)
    (stands : directory.alone.Stands way place)
    (listed : ∀ item ∈ entries, item ∈ place.here.entries)
    (fits : ∀ names, directory.alone.Holds links place entries names →
      FitAlike (Trail.path path names) (Trail.path otherPath names)) :
    SameBelow files others links links (place.onto base) (place.onto otherBase) path otherPath
      entries entries := by
  induction links, place, entries using descent_induction directory.alone
    generalizing path otherPath way with
  | nil links place => exact .nil
  | cons links place name entry siblings inside ih =>
      have placeProper := stands.proper proper
      have member := listed (name, entry) List.mem_cons_self
      have known := placeProper.here.lookup_eq_some_iff.mpr member
      have further := ih stands (fun item within => listed item (List.mem_cons_of_mem _ within))
        fun names holds => fits names (holds.mono fun item within => List.mem_cons_of_mem _ within)
      have fit : FitAlike (Path.join path name) (Path.join otherPath name) :=
        fits [name] (.here List.mem_cons_self)
      have leads := resolve_onto files links base closed stands known
      have otherLeads := resolve_onto others links otherBase closed stands known
      cases resolved : directory.alone.resolve links place entry with
      | error failure =>
          rw [resolved] at leads otherLeads
          have here : SameTarget (files.resolve links (place.onto base) entry)
              (others.resolve links (place.onto otherBase) entry) := by
            rw [leads, otherLeads]
            exact .error failure
          exact .item fit here further
      | ok found =>
          rw [resolved] at leads otherLeads
          obtain ⟨target, left⟩ := found
          cases target with
          | file readable content =>
              have here : SameTarget (files.resolve links (place.onto base) entry)
                  (others.resolve links (place.onto otherBase) entry) := by
                rw [leads, otherLeads]
                exact .file readable content _ _
              exact .item fit here further
          | directory inner =>
              have followed := (follow_name (placeProper.here.named _ member) known).trans resolved
              obtain ⟨next, innerStands⟩ := stands.follow followed
              refine .directory fit leads otherLeads rfl ?_ further
              refine inside inner left resolved innerStands (fun item within => within) ?_
              intro names holds
              exact fits (name :: names) (.down List.mem_cons_self resolved holds)

theorem SameTree.of_closed (closed : directory.Closed) (proper : directory.alone.Proper)
    (located : files.locate root = .ok (.directory base, links))
    (otherLocated : others.locate otherRoot = .ok (.directory otherBase, links))
    (equal : base.here = directory) (otherEqual : otherBase.here = directory)
    (fits : ∀ names, directory.alone.Holds links directory.alone.top directory.entries names →
      FitAlike (Trail.path root names) (Trail.path otherRoot names)) :
    files.SameTree others root otherRoot := by
  obtain ⟨here, above⟩ := base
  obtain ⟨otherHere, otherAbove⟩ := otherBase
  cases equal
  cases otherEqual
  have below : SameBelow files others links links (here.alone.top.onto ⟨here, above⟩)
      (here.alone.top.onto ⟨here, otherAbove⟩) root otherRoot here.entries here.entries :=
    .of_closed closed proper .top (fun item within => within) fits
  exact ⟨_, _, _, _, located, otherLocated, rfl, below⟩

end FileSystem

end EnvAudit
