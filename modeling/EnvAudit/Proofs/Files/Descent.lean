import EnvAudit.Proofs.Files.Naming
import Mathlib.Data.List.Nodup

/-!
# Descent into a tree

`FileSystem.resolve` tells what an entry of a directory leads to, links
followed.  Below an entry that leads to a directory, either fewer links may be
followed or the entries are smaller, so statements about everything below a
place can be proved by induction.  `FileSystem.Leads` relates a place to what is
below it by the names on the way down.
-/

namespace EnvAudit

namespace FileSystem

/-- A path that makes sense is followed part by part. -/
theorem locate_of_parts {files : FileSystem} {path : String} {parts : List String}
    (nonempty : path ≠ "") (noNul : path.toList.contains '\x00' = false)
    (short : path.utf8ByteSize ≤ pathLimit)
    (isParts : Path.parts (Path.join files.workingDirectory path) = parts) :
    files.locate path = files.follow linkLimit files.top parts := by
  rw [FileSystem.locate, if_neg nonempty, noNul, if_neg (by simp), if_neg (by omega), isParts]

/-- What an entry of the directory at a place leads to, through at most `links`
links, and how many links are left. -/
def resolve (files : FileSystem) (links : Nat) (place : Place) :
    Entry → Except Failure (Located × Nat)
  | .file readable content => .ok (.file readable content, links)
  | .directory readable entries => .ok (.directory (place.down ⟨readable, entries⟩), links)
  | .link target =>
      match links with
      | 0 => .error .tooManyLinks
      | links + 1 => files.follow links (files.startOf place target) (Path.parts target)

/-- Behind an entry that leads to a directory a walk has less to do. -/
theorem resolve_decreases {files : FileSystem} {links : Nat} {place : Place} {entry : Entry}
    {inner : Place} {left : Nat}
    (leads : files.resolve links place entry = .ok (.directory inner, left)) :
    left < links ∨ left = links ∧ sizeOf inner.here.entries < sizeOf entry := by
  cases entry with
  | file readable content => simp [resolve] at leads
  | directory readable entries =>
      simp only [resolve, Except.ok.injEq, Prod.mk.injEq, Located.directory.injEq] at leads
      obtain ⟨rfl, rfl⟩ := leads
      refine .inr ⟨rfl, ?_⟩
      simp only [Place.down, Entry.directory.sizeOf_spec]
      omega
  | link target =>
      cases links with
      | zero => simp [resolve] at leads
      | succ links =>
          left
          have bound := follow_links_le (by simpa only [resolve] using leads)
          omega

/-- What holds of the empty list of entries and of a list whose first entry
leads to a directory where it holds and whose other entries have it, holds of all
entries of all places. -/
theorem descent_induction (files : FileSystem) {motive : Nat → Place → List (String × Entry) → Prop}
    (nil : ∀ links place, motive links place [])
    (cons : ∀ links place name entry others,
      (∀ inner left, files.resolve links place entry = .ok (.directory inner, left) →
        motive left inner inner.here.entries) →
      motive links place others → motive links place ((name, entry) :: others))
    (links : Nat) (place : Place) (entries : List (String × Entry)) :
    motive links place entries := by
  match entries with
  | [] => exact nil links place
  | (name, entry) :: others =>
      apply cons
      · intro inner left leads
        have decreases := resolve_decreases leads
        exact descent_induction files nil cons left inner inner.here.entries
      · exact descent_induction files nil cons links place others
termination_by (links, sizeOf entries)
decreasing_by
  -- Behind a link there are fewer links to follow, and a directory is larger than its entries.
  · have := resolve_decreases leads
    simp only [List.cons.sizeOf_spec, Prod.mk.sizeOf_spec]
    rcases this with fewer | ⟨rfl, smaller⟩
    · exact Prod.Lex.left _ _ fewer
    · exact Prod.Lex.right _ (by omega)
  · apply Prod.Lex.right
    simp only [List.cons.sizeOf_spec, Prod.mk.sizeOf_spec]
    omega

end FileSystem

/-- An entry below which each directory has names for its entries, no two alike. -/
inductive Entry.Proper : Entry → Prop
  | file (readable : Bool) (content : ByteArray) : Proper (.file readable content)
  | link (target : String) : Proper (.link target)
  | directory {readable : Bool} {entries : List (String × Entry)}
      (distinct : (entries.map Prod.fst).Nodup) (named : ∀ item ∈ entries, IsName item.1)
      (inner : ∀ item ∈ entries, Proper item.2) : Proper (.directory readable entries)

theorem mem_of_lookup {α : Type} {entries : List (String × α)} {name : String} {entry : α}
    (known : entries.lookup name = some entry) : (name, entry) ∈ entries := by
  obtain ⟨before, behind, rfl, _⟩ := List.lookup_eq_some_iff.mp known
  simp

/-- Entries with names, no two alike, that are proper themselves. -/
structure ProperEntries (entries : List (String × Entry)) : Prop where
  distinct : (entries.map Prod.fst).Nodup
  named : ∀ item ∈ entries, IsName item.1
  inner : ∀ item ∈ entries, item.2.Proper

namespace ProperEntries

theorem of_directory {readable : Bool} {entries : List (String × Entry)}
    (proper : Entry.Proper (.directory readable entries)) : ProperEntries entries := by
  cases proper with
  | directory distinct named inner => exact ⟨distinct, named, inner⟩

theorem tail {item : String × Entry} {others : List (String × Entry)}
    (proper : ProperEntries (item :: others)) : ProperEntries others where
  distinct := (List.nodup_cons.mp proper.distinct).2
  named other member := proper.named other (List.mem_cons_of_mem _ member)
  inner other member := proper.inner other (List.mem_cons_of_mem _ member)

/-- Entries under one name are one entry. -/
theorem unique {entries : List (String × Entry)} (proper : ProperEntries entries)
    {name : String} {first second : Entry} (firstIn : (name, first) ∈ entries)
    (secondIn : (name, second) ∈ entries) : first = second :=
  congrArg Prod.snd (List.inj_on_of_nodup_map proper.distinct firstIn secondIn rfl)

end ProperEntries

/-- A place in a proper tree. -/
structure Place.Proper (place : Place) : Prop where
  here : ProperEntries place.here.entries
  above : ∀ directory ∈ place.above, ProperEntries directory.entries

/-- A file system whose directories are all proper. -/
def FileSystem.Proper (files : FileSystem) : Prop :=
  ProperEntries files.root.entries

namespace Place.Proper

theorem up {place : Place} (proper : place.Proper) : place.up.Proper := by
  rw [Place.up]
  cases above : place.above with
  | nil => exact proper
  | cons parent others =>
      exact ⟨proper.above parent (by simp [above]),
        fun directory member => proper.above directory (by simp [above, member])⟩

theorem down {place : Place} (proper : place.Proper) {directory : Directory}
    (inner : ProperEntries directory.entries) : (place.down directory).Proper where
  here := inner
  above other member := by
    rcases List.mem_cons.mp member with rfl | further
    · exact proper.here
    · exact proper.above other further

end Place.Proper

namespace FileSystem

variable {files : FileSystem} {links left : Nat} {place inner : Place}

theorem Proper.top (proper : files.Proper) : files.top.Proper :=
  ⟨proper, by simp [FileSystem.top]⟩

theorem Proper.startOf (proper : files.Proper) (placeProper : place.Proper) (path : String) :
    (files.startOf place path).Proper := by
  rw [FileSystem.startOf]
  split
  · exact proper.top
  · exact placeProper

/-- Paths lead from proper places to proper places. -/
theorem Proper.follow (proper : files.Proper) {parts : List String} (placeProper : place.Proper)
    (ends : files.follow links place parts = .ok (.directory inner, left)) : inner.Proper := by
  fun_induction FileSystem.follow files links place parts with
  | case1 links place =>
      simp only [Except.ok.injEq, Prod.mk.injEq, Located.directory.injEq] at ends
      exact ends.1 ▸ placeProper
  | case2 links place part parts idle ih => exact ih placeProper ends
  | case3 links place parts idle ih => exact ih placeProper.up ends
  | case4 => contradiction
  | case5 links place part parts idle notUp readable entries known ih =>
      have member := mem_of_lookup known
      exact ih (placeProper.down (.of_directory (placeProper.here.inner _ member))) ends
  | case6 => simp at ends
  | case7 => contradiction
  | case8 => contradiction
  | case9 place part parts idle notUp target known links ih =>
      exact ih (proper.startOf placeProper target) ends

theorem Proper.resolve (proper : files.Proper) (placeProper : place.Proper) {entry : Entry}
    (entryProper : entry.Proper)
    (leads : files.resolve links place entry = .ok (.directory inner, left)) : inner.Proper := by
  cases entry with
  | file readable content => simp [FileSystem.resolve] at leads
  | directory readable entries =>
      simp only [FileSystem.resolve, Except.ok.injEq, Prod.mk.injEq,
        Located.directory.injEq] at leads
      exact leads.1 ▸ placeProper.down (.of_directory entryProper)
  | link target =>
      cases links with
      | zero => simp [FileSystem.resolve] at leads
      | succ links => exact proper.follow (proper.startOf placeProper target) leads

theorem Proper.locate (proper : files.Proper) {path : String}
    (located : files.locate path = .ok (.directory inner, left)) : inner.Proper := by
  rw [FileSystem.locate] at located
  split at located
  · contradiction
  · split at located
    · contradiction
    · split at located
      · contradiction
      · exact proper.follow proper.top located

/-- The names lead from entries of the directory at a place down to a target, from
which `left` links may be followed. -/
inductive Leads (files : FileSystem) :
    (links : Nat) → Place → List (String × Entry) → List String → Located → (left : Nat) → Prop
  | last {links : Nat} {place : Place} {entries : List (String × Entry)} {name : String}
      {entry : Entry} {target : Located} {left : Nat} (member : (name, entry) ∈ entries)
      (resolved : files.resolve links place entry = .ok (target, left)) :
      Leads files links place entries [name] target left
  | down {links : Nat} {place : Place} {entries : List (String × Entry)} {name : String}
      {entry : Entry} {inner : Place} {middle : Nat} {names : List String} {target : Located}
      {left : Nat} (member : (name, entry) ∈ entries)
      (resolved : files.resolve links place entry = .ok (.directory inner, middle))
      (below : Leads files middle inner inner.here.entries names target left) :
      Leads files links place entries (name :: names) target left

/-- Everything below the place that a path leads to can be reached: directories can
be listed, links lead somewhere, and the way down always comes to an end. -/
inductive Accessible (files : FileSystem) : (links : Nat) → Place → (path : String) → Prop
  | intro {links : Nat} {place : Place} {path : String} (readable : place.here.readable = true)
      (short : ∀ item ∈ place.here.entries,
        (Path.join path item.1).utf8ByteSize ≤ pathLimit)
      (resolved : ∀ item ∈ place.here.entries, ∃ target left,
        files.resolve links place item.2 = .ok (target, left))
      (below : ∀ item ∈ place.here.entries, ∀ inner left,
        files.resolve links place item.2 = .ok (.directory inner, left) →
        Accessible files left inner (Path.join path item.1)) :
      Accessible files links place path

namespace Leads

variable {entries : List (String × Entry)} {names : List String} {target : Located}

theorem nonempty (leads : files.Leads links place entries names target left) : names ≠ [] := by
  cases leads <;> simp

theorem areNames (proper : files.Proper) (placeProper : place.Proper)
    (entriesProper : ProperEntries entries)
    (leads : files.Leads links place entries names target left) :
    ∀ name ∈ names, IsName name := by
  induction leads with
  | last member resolved => simpa using entriesProper.named _ member
  | down member resolved below ih =>
      have innerProper := proper.resolve placeProper (entriesProper.inner _ member) resolved
      intro name inNames
      rcases List.mem_cons.mp inNames with rfl | further
      · exact entriesProper.named _ member
      · exact ih innerProper innerProper.here name further

/-- The names lead to one target. -/
theorem unique (proper : files.Proper) (placeProper : place.Proper)
    (entriesProper : ProperEntries entries) {other : Located} {otherLeft : Nat}
    (leads : files.Leads links place entries names target left)
    (otherLeads : files.Leads links place entries names other otherLeft) :
    target = other ∧ left = otherLeft := by
  induction leads with
  | last member resolved =>
      cases otherLeads with
      | last otherMember otherResolved =>
          rw [entriesProper.unique member otherMember, otherResolved] at resolved
          simp_all
      | down otherMember otherResolved below => exact absurd rfl below.nonempty
  | down member resolved below ih =>
      have innerProper := proper.resolve placeProper (entriesProper.inner _ member) resolved
      cases otherLeads with
      | last => exact absurd rfl below.nonempty
      | down otherMember otherResolved otherBelow =>
          rw [entriesProper.unique member otherMember, otherResolved] at resolved
          simp only [Except.ok.injEq, Prod.mk.injEq, Located.directory.injEq] at resolved
          obtain ⟨rfl, rfl⟩ := resolved
          exact ih innerProper innerProper.here otherBelow

end Leads

end FileSystem

end EnvAudit
