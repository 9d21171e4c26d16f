import EnvAudit.Proofs.Files.Descent
import Mathlib.Data.List.Perm.Basic

/-!
# Orders of listing

A directory may list its entries in any order.  Two trees that differ in the
orders of their listings only, at whatever levels, lead paths to the same ends: to files
with the same content, and to directories that again differ in such orders only.
-/

namespace EnvAudit

/-- The same entries, listed in different orders here and in the directories below. -/
inductive Relisted : List (String × Entry) → List (String × Entry) → Prop
  | nil : Relisted [] []
  | keep (item : String × Entry) {first second : List (String × Entry)}
      (others : Relisted first second) : Relisted (item :: first) (item :: second)
  | inside (name : String) (readable : Bool) {inner innerSecond : List (String × Entry)}
      {first second : List (String × Entry)} (below : Relisted inner innerSecond)
      (others : Relisted first second) :
      Relisted ((name, .directory readable inner) :: first)
        ((name, .directory readable innerSecond) :: second)
  | swap (item other : String × Entry) (others : List (String × Entry)) :
      Relisted (item :: other :: others) (other :: item :: others)
  | trans {first second third : List (String × Entry)} (before : Relisted first second)
      (behind : Relisted second third) : Relisted first third

/-- Entries that are the same, up to the orders of listings. -/
inductive Entry.Reordered : Entry → Entry → Prop
  | refl (entry : Entry) : Reordered entry entry
  | directory (readable : Bool) {first second : List (String × Entry)}
      (entries : Relisted first second) :
      Reordered (.directory readable first) (.directory readable second)

namespace Relisted

variable {first second : List (String × Entry)}

theorem refl (entries : List (String × Entry)) : Relisted entries entries := by
  induction entries with
  | nil => exact .nil
  | cons item others ih => exact .keep item ih

theorem symm (same : Relisted first second) : Relisted second first := by
  induction same with
  | nil => exact .nil
  | keep item others ih => exact .keep item ih
  | inside name readable below others belowIh othersIh =>
      exact .inside name readable belowIh othersIh
  | swap item other others => exact .swap other item others
  | trans before behind beforeIh behindIh => exact .trans behindIh beforeIh

/-- Any order of the entries of one directory will do. -/
theorem of_perm (same : first.Perm second) : Relisted first second := by
  induction same with
  | nil => exact .nil
  | cons item others ih => exact .keep item ih
  | swap item other others => exact .swap other item others
  | trans before behind beforeIh behindIh => exact .trans beforeIh behindIh

/-- So will any orders in the directories below, chosen one by one. -/
theorem of_levels {middle : List (String × Entry)}
    (levels : List.Forall₂ (fun item other => item.1 = other.1 ∧ item.2.Reordered other.2)
      first middle) (order : middle.Perm second) : Relisted first second := by
  refine .trans ?_ (.of_perm order)
  clear order
  induction levels with
  | nil => exact .nil
  | @cons item other _ _ same _ ih =>
      obtain ⟨name, entry⟩ := item
      obtain ⟨otherName, otherEntry⟩ := other
      obtain ⟨rfl, entries⟩ := same
      cases entries with
      | refl => exact .keep (name, entry) ih
      | directory readable below => exact .inside name readable below ih

theorem names_perm (same : Relisted first second) :
    (first.map Prod.fst).Perm (second.map Prod.fst) := by
  induction same with
  | nil => exact .nil
  | keep item others ih => exact ih.cons item.1
  | inside name readable below others belowIh othersIh => exact othersIh.cons name
  | swap item other others => exact .swap other.1 item.1 _
  | trans before behind beforeIh behindIh => exact beforeIh.trans behindIh

end Relisted

namespace Entry.Reordered

variable {first second third : Entry}

theorem symm (same : first.Reordered second) : second.Reordered first := by
  cases same with
  | refl => exact .refl first
  | directory readable entries => exact .directory readable entries.symm

theorem trans (before : first.Reordered second) (behind : second.Reordered third) :
    first.Reordered third := by
  cases before with
  | refl => exact behind
  | directory readable entries =>
      cases behind with
      | refl => exact .directory readable entries
      | directory _ others => exact .directory readable (entries.trans others)

end Entry.Reordered

namespace Relisted

variable {first second : List (String × Entry)}

/-- Each entry is listed in both orders. -/
theorem exists_mem (same : Relisted first second) {name : String} {entry : Entry}
    (member : (name, entry) ∈ first) :
    ∃ other, (name, other) ∈ second ∧ entry.Reordered other := by
  induction same generalizing entry with
  | nil => cases member
  | keep item others ih =>
      rcases List.mem_cons.mp member with rfl | further
      · exact ⟨entry, List.mem_cons_self, .refl entry⟩
      · obtain ⟨other, otherMember, sameEntry⟩ := ih further
        exact ⟨other, List.mem_cons_of_mem _ otherMember, sameEntry⟩
  | inside name readable below others belowIh othersIh =>
      rcases List.mem_cons.mp member with here | further
      · cases here
        exact ⟨_, List.mem_cons_self, .directory readable below⟩
      · obtain ⟨other, otherMember, sameEntry⟩ := othersIh further
        exact ⟨other, List.mem_cons_of_mem _ otherMember, sameEntry⟩
  | swap item other others =>
      exact ⟨entry, (List.Perm.swap other item others).mem_iff.mp member, .refl entry⟩
  | trans before behind beforeIh behindIh =>
      obtain ⟨middle, middleMember, sameMiddle⟩ := beforeIh member
      obtain ⟨other, otherMember, sameOther⟩ := behindIh middleMember
      exact ⟨other, otherMember, sameMiddle.trans sameOther⟩

end Relisted

namespace ProperEntries

variable {entries others : List (String × Entry)}

theorem cons_iff {item : String × Entry} :
    ProperEntries (item :: others) ↔
      item.1 ∉ others.map Prod.fst ∧ IsName item.1 ∧ item.2.Proper ∧ ProperEntries others := by
  constructor
  · intro proper
    exact ⟨(List.nodup_cons.mp proper.distinct).1, proper.named item List.mem_cons_self,
      proper.inner item List.mem_cons_self, proper.tail⟩
  · rintro ⟨fresh, isName, itemProper, proper⟩
    exact ⟨List.nodup_cons.mpr ⟨fresh, proper.distinct⟩,
      List.forall_mem_cons.mpr ⟨isName, proper.named⟩,
      List.forall_mem_cons.mpr ⟨itemProper, proper.inner⟩⟩

theorem perm (same : entries.Perm others) (proper : ProperEntries entries) :
    ProperEntries others where
  distinct := (same.map Prod.fst).nodup_iff.mp proper.distinct
  named item member := proper.named item (same.mem_iff.mpr member)
  inner item member := proper.inner item (same.mem_iff.mpr member)

theorem directory {readable : Bool} (proper : ProperEntries entries) :
    Entry.Proper (.directory readable entries) :=
  .directory proper.distinct proper.named proper.inner

/-- Proper entries are proper in any order. -/
theorem relisted (same : Relisted entries others) (proper : ProperEntries entries) :
    ProperEntries others := by
  induction same with
  | nil => exact proper
  | keep item others ih =>
      obtain ⟨fresh, isName, itemProper, tail⟩ := cons_iff.mp proper
      exact cons_iff.mpr ⟨fun known => fresh (others.names_perm.mem_iff.mpr known), isName,
        itemProper, ih tail⟩
  | inside name readable below others belowIh othersIh =>
      obtain ⟨fresh, isName, itemProper, tail⟩ := cons_iff.mp proper
      exact cons_iff.mpr ⟨fun known => fresh (others.names_perm.mem_iff.mpr known), isName,
        (belowIh (.of_directory itemProper)).directory, othersIh tail⟩
  | swap item other others => exact proper.perm (.swap other item others)
  | trans before behind beforeIh behindIh => exact behindIh (beforeIh proper)

theorem lookup_eq_some_iff (proper : ProperEntries entries) {name : String} {entry : Entry} :
    entries.lookup name = some entry ↔ (name, entry) ∈ entries := by
  constructor
  · exact mem_of_lookup
  · intro member
    have known : (entries.lookup name).isSome :=
      List.lookup_isSome_iff.mpr ⟨(name, entry), member, beq_self_eq_true name⟩
    obtain ⟨other, lookup⟩ := Option.isSome_iff_exists.mp known
    rw [lookup, proper.unique (mem_of_lookup lookup) member]

/-- A name stands for the same entry in any order. -/
theorem lookup_some (same : Relisted entries others) (proper : ProperEntries entries)
    {name : String} {entry : Entry} (known : entries.lookup name = some entry) :
    ∃ other, others.lookup name = some other ∧ entry.Reordered other := by
  obtain ⟨other, otherMember, sameEntry⟩ := same.exists_mem (mem_of_lookup known)
  exact ⟨other, (proper.relisted same).lookup_eq_some_iff.mpr otherMember, sameEntry⟩

/-- A name that stands for nothing does so in any order. -/
theorem lookup_none (same : Relisted entries others) (proper : ProperEntries entries)
    {name : String} (unknown : entries.lookup name = none) : others.lookup name = none := by
  cases otherKnown : others.lookup name with
  | none => rfl
  | some other =>
      obtain ⟨entry, member, _⟩ := same.symm.exists_mem (mem_of_lookup otherKnown)
      cases unknown.symm.trans (proper.lookup_eq_some_iff.mpr member)

end ProperEntries

/-- The same directory, with listings in different orders. -/
structure Directory.Reordered (first second : Directory) : Prop where
  readable : first.readable = second.readable
  entries : Relisted first.entries second.entries

/-- The same place, with listings in different orders. -/
structure Place.Reordered (first second : Place) : Prop where
  here : first.here.Reordered second.here
  above : List.Forall₂ Directory.Reordered first.above second.above

/-- The same file, or the same place with listings in different orders. -/
inductive Located.Reordered : Located → Located → Prop
  | file (readable : Bool) (content : ByteArray) :
      Reordered (.file readable content) (.file readable content)
  | directory {first second : Place} (places : first.Reordered second) :
      Reordered (.directory first) (.directory second)

/-- The same tree, with listings in different orders. -/
structure FileSystem.Reordered (first second : FileSystem) : Prop where
  root : first.root.Reordered second.root
  workingDirectory : first.workingDirectory = second.workingDirectory

theorem Directory.Reordered.symm {first second : Directory} (same : first.Reordered second) :
    second.Reordered first :=
  ⟨same.readable.symm, same.entries.symm⟩

namespace Place.Reordered

variable {first second : Place}

theorem symm (same : first.Reordered second) : second.Reordered first where
  here := same.here.symm
  above := (same.above.imp fun _ _ directories => directories.symm).flip

theorem up (same : first.Reordered second) : first.up.Reordered second.up := by
  obtain ⟨here, above⟩ := first
  obtain ⟨otherHere, otherAbove⟩ := second
  obtain ⟨sameHere, sameAbove⟩ := same
  cases sameAbove with
  | nil => exact ⟨sameHere, .nil⟩
  | cons parent others => exact ⟨parent, others⟩

theorem down (same : first.Reordered second) {directory other : Directory}
    (inner : directory.Reordered other) :
    (first.down directory).Reordered (second.down other) :=
  ⟨inner, .cons same.here same.above⟩

end Place.Reordered

/-- Proper places are proper in any order. -/
theorem Place.Proper.reordered {first second : Place} (same : first.Reordered second)
    (proper : first.Proper) : second.Proper := by
  have above {directories others : List Directory}
      (directoriesSame : List.Forall₂ Directory.Reordered directories others)
      (directoriesProper : ∀ directory ∈ directories, ProperEntries directory.entries) :
      ∀ other ∈ others, ProperEntries other.entries := by
    induction directoriesSame with
    | nil => simp
    | cons directory _ ih =>
        rw [List.forall_mem_cons] at directoriesProper ⊢
        exact ⟨directoriesProper.1.relisted directory.entries, ih directoriesProper.2⟩
  exact ⟨proper.here.relisted same.here.entries, above same.above proper.above⟩

theorem Located.Reordered.symm {first second : Located} (same : first.Reordered second) :
    second.Reordered first := by
  cases same with
  | file readable content => exact .file readable content
  | directory places => exact .directory places.symm

theorem Located.Reordered.isDirectory {first second : Located} (same : first.Reordered second) :
    first.isDirectory = second.isDirectory := by
  cases same <;> rfl

namespace FileSystem

open ProperEntries

/-- The same end of a path: the same failure, or the same target with as many links left. -/
inductive SameEnd : Except Failure (Located × Nat) → Except Failure (Located × Nat) → Prop
  | error (failure : Failure) : SameEnd (.error failure) (.error failure)
  | ok {target other : Located} (targets : target.Reordered other) (left : Nat) :
      SameEnd (.ok (target, left)) (.ok (other, left))

namespace SameEnd

variable {first second : Except Failure (Located × Nat)}

theorem symm (same : SameEnd first second) : SameEnd second first := by
  cases same with
  | error failure => exact .error failure
  | ok targets left => exact .ok targets.symm left

theorem of_ok (same : SameEnd first second) {target : Located} {left : Nat}
    (ends : first = .ok (target, left)) :
    ∃ other, target.Reordered other ∧ second = .ok (other, left) := by
  cases same with
  | error failure => cases ends
  | ok targets _ =>
      cases ends
      exact ⟨_, targets, rfl⟩

end SameEnd

namespace Reordered

variable {files others : FileSystem} {links : Nat} {place other : Place}

theorem symm (same : files.Reordered others) : others.Reordered files :=
  ⟨same.root.symm, same.workingDirectory.symm⟩

theorem top (same : files.Reordered others) : files.top.Reordered others.top :=
  ⟨same.root, .nil⟩

theorem proper (same : files.Reordered others) (filesProper : files.Proper) : others.Proper :=
  filesProper.relisted same.root.entries

theorem startOf (same : files.Reordered others) (places : place.Reordered other)
    (path : String) : (files.startOf place path).Reordered (others.startOf other path) := by
  rw [FileSystem.startOf, FileSystem.startOf]
  split
  · exact same.top
  · exact places

/-- Paths lead to the same ends in both trees. -/
theorem follow (same : files.Reordered others) (proper : files.Proper)
    (placeProper : place.Proper) (places : place.Reordered other) (parts : List String) :
    SameEnd (files.follow links place parts) (others.follow links other parts) := by
  fun_induction FileSystem.follow files links place parts generalizing other with
  | case1 links place =>
      rw [FileSystem.follow]
      exact .ok (.directory places) links
  | case2 links place part parts idle ih =>
      rw [FileSystem.follow, if_pos idle]
      exact ih placeProper places
  | case3 links place parts idle ih =>
      rw [FileSystem.follow, if_neg idle, if_pos rfl]
      exact ih placeProper.up places.up
  | case4 links place part parts idle notUp unknown =>
      have otherUnknown := lookup_none places.here.entries placeProper.here unknown
      rw [FileSystem.follow, if_neg idle, if_neg notUp, otherUnknown]
      exact .error _
  | case5 links place part parts idle notUp readable entries known ih =>
      obtain ⟨otherEntry, otherKnown, sameEntry⟩ :=
        lookup_some places.here.entries placeProper.here known
      rw [FileSystem.follow, if_neg idle, if_neg notUp, otherKnown]
      have member := mem_of_lookup known
      have innerProper := ProperEntries.of_directory (placeProper.here.inner _ member)
      cases sameEntry with
      | refl => exact ih (placeProper.down innerProper) (places.down ⟨rfl, .refl entries⟩)
      | directory _ inner =>
          exact ih (placeProper.down innerProper) (places.down ⟨rfl, inner⟩)
  | case6 links place part idle notUp readable content known =>
      obtain ⟨otherEntry, otherKnown, sameEntry⟩ :=
        lookup_some places.here.entries placeProper.here known
      rw [FileSystem.follow, if_neg idle, if_neg notUp, otherKnown]
      cases sameEntry with
      | refl => exact .ok (.file readable content) links
  | case7 links place part parts idle notUp readable content known more =>
      obtain ⟨otherEntry, otherKnown, sameEntry⟩ :=
        lookup_some places.here.entries placeProper.here known
      rw [FileSystem.follow, if_neg idle, if_neg notUp, otherKnown]
      cases sameEntry with
      | refl =>
          simp only [if_neg more]
          exact .error .notADirectory
  | case8 place part parts idle notUp target known =>
      obtain ⟨otherEntry, otherKnown, sameEntry⟩ :=
        lookup_some places.here.entries placeProper.here known
      rw [FileSystem.follow, if_neg idle, if_neg notUp, otherKnown]
      cases sameEntry with
      | refl => exact .error .tooManyLinks
  | case9 place part parts idle notUp target known links ih =>
      obtain ⟨otherEntry, otherKnown, sameEntry⟩ :=
        lookup_some places.here.entries placeProper.here known
      rw [FileSystem.follow, if_neg idle, if_neg notUp, otherKnown]
      cases sameEntry with
      | refl => exact ih (proper.startOf placeProper target) (same.startOf places target)

/-- Entries that are the same resolve in the same way. -/
theorem resolve (same : files.Reordered others) (proper : files.Proper)
    (placeProper : place.Proper) (places : place.Reordered other) {entry otherEntry : Entry}
    (entries : entry.Reordered otherEntry) :
    SameEnd (files.resolve links place entry) (others.resolve links other otherEntry) := by
  cases entries with
  | refl =>
      cases entry with
      | file readable content => exact .ok (.file readable content) links
      | directory readable inner =>
          exact .ok (.directory (places.down ⟨rfl, .refl inner⟩)) links
      | link target =>
          cases links with
          | zero => exact .error .tooManyLinks
          | succ links =>
              exact same.follow proper (proper.startOf placeProper target)
                (same.startOf places target) (Path.parts target)
  | @directory readable first second inner =>
      have directories : Directory.Reordered ⟨readable, first⟩ ⟨readable, second⟩ := ⟨rfl, inner⟩
      exact .ok (.directory (places.down directories)) links

/-- Each entry of a listing is in the other one too, and leads to the same. -/
theorem resolve_mem (same : files.Reordered others) (proper : files.Proper)
    (placeProper : place.Proper) (places : place.Reordered other)
    {entries otherEntries : List (String × Entry)} (listings : Relisted entries otherEntries)
    {item : String × Entry} (member : item ∈ entries) :
    ∃ otherItem ∈ otherEntries, otherItem.1 = item.1 ∧
      SameEnd (files.resolve links place item.2) (others.resolve links other otherItem.2) := by
  obtain ⟨entry, otherMember, sameEntry⟩ := listings.exists_mem member
  exact ⟨(item.1, entry), otherMember, rfl,
    same.resolve proper placeProper places sameEntry⟩

theorem locate (same : files.Reordered others) (proper : files.Proper) (path : String) :
    SameEnd (files.locate path) (others.locate path) := by
  rw [FileSystem.locate, FileSystem.locate, same.workingDirectory]
  split
  · exact .error .noSuchEntry
  · split
    · exact .error .nulInPath
    · split
      · exact .error .nameTooLong
      · exact same.follow proper proper.top same.top _

theorem isFile (same : files.Reordered others) (proper : files.Proper) :
    files.isFile = others.isFile := by
  funext path
  rw [FileSystem.isFile, FileSystem.isFile]
  have ends := same.locate proper path
  revert ends
  generalize files.locate path = first
  generalize others.locate path = second
  rintro (_ | ⟨targets, left⟩)
  · rfl
  · cases targets <;> rfl

/-- Files have the same content. -/
theorem read (same : files.Reordered others) (proper : files.Proper) :
    files.read = others.read := by
  funext path
  rw [FileSystem.read, FileSystem.read]
  have ends := same.locate proper path
  revert ends
  generalize files.locate path = first
  generalize others.locate path = second
  rintro (_ | ⟨targets, left⟩)
  · rfl
  · cases targets <;> rfl

end Reordered

end FileSystem

end EnvAudit
