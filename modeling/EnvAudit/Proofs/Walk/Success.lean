import EnvAudit.Proofs.Walk.Visit

/-!
# When walks succeed

A walk succeeds if it can enter everything that it has to.  What lies behind an
ignored directory does not matter to it, nor does the order of the entries.
-/

namespace EnvAudit

namespace Collector

/-- A walk over entries of the directory at a place can enter everything that it has to:
paths are short enough, entries lead somewhere, and directories that are not ignored can
be listed and walked over in turn. -/
inductive Walkable (files : FileSystem) (rules : IgnoreRules) :
    (links : Nat) → Place → (path relative : String) → List (String × Entry) → Prop
  | intro {links : Nat} {place : Place} {path relative : String}
      {entries : List (String × Entry)}
      (short : ∀ item ∈ entries, (Path.join path item.1).utf8ByteSize ≤ FileSystem.pathLimit)
      (resolved : ∀ item ∈ entries, ∃ target left,
        files.resolve links place item.2 = .ok (target, left))
      (listed : ∀ item ∈ entries, ∀ inner left,
        files.resolve links place item.2 = .ok (.directory inner, left) →
        rules.isIgnored (relativePath relative item.1) true = false →
        inner.here.readable = true)
      (below : ∀ item ∈ entries, ∀ inner left,
        files.resolve links place item.2 = .ok (.directory inner, left) →
        rules.isIgnored (relativePath relative item.1) true = false →
        Walkable files rules left inner (Path.join path item.1)
          (relativePath relative item.1) inner.here.entries) :
      Walkable files rules links place path relative entries

variable {collector : Collector} {files : FileSystem} {rules : IgnoreRules} {links left : Nat}
variable {place : Place} {path relative : String} {item : String × Entry}
variable {entries others : List (String × Entry)}

namespace Walkable

theorem tail (walkable : Walkable files rules links place path relative (item :: others)) :
    Walkable files rules links place path relative others := by
  cases walkable with
  | intro short resolved listed below =>
      exact .intro (fun other member => short other (List.mem_cons_of_mem _ member))
        (fun other member => resolved other (List.mem_cons_of_mem _ member))
        (fun other member => listed other (List.mem_cons_of_mem _ member))
        (fun other member => below other (List.mem_cons_of_mem _ member))

/-- A walk can enter what it has to if it can enter the first entry and, after that, what it
has to among the others. -/
theorem cons_iff :
    Walkable files rules links place path relative (item :: others) ↔
      ((Path.join path item.1).utf8ByteSize ≤ FileSystem.pathLimit ∧
        ∃ target left, files.resolve links place item.2 = .ok (target, left) ∧
          ∀ inner, target = .directory inner →
            rules.isIgnored (relativePath relative item.1) true = false →
            inner.here.readable = true ∧
              Walkable files rules left inner (Path.join path item.1)
                (relativePath relative item.1) inner.here.entries) ∧
        Walkable files rules links place path relative others := by
  constructor
  · intro walkable
    refine ⟨?_, walkable.tail⟩
    cases walkable with
    | intro short resolved listed below =>
        obtain ⟨target, left, leads⟩ := resolved item List.mem_cons_self
        refine ⟨short item List.mem_cons_self, target, left, leads, ?_⟩
        rintro inner rfl clear
        exact ⟨listed item List.mem_cons_self inner left leads clear,
          below item List.mem_cons_self inner left leads clear⟩
  · rintro ⟨⟨itemShort, target, left, leads, enters⟩, ⟨short, resolved, listed, below⟩⟩
    have one (inner : Place) (middle : Nat)
        (again : files.resolve links place item.2 = .ok (.directory inner, middle)) :
        target = .directory inner ∧ left = middle := by
      cases leads.symm.trans again
      exact ⟨rfl, rfl⟩
    refine .intro (List.forall_mem_cons.mpr ⟨itemShort, short⟩)
      (List.forall_mem_cons.mpr ⟨⟨target, left, leads⟩, resolved⟩)
      (List.forall_mem_cons.mpr ⟨?_, listed⟩) (List.forall_mem_cons.mpr ⟨?_, below⟩)
    · intro inner middle again clear
      obtain ⟨isInner, rfl⟩ := one inner middle again
      exact (enters inner isInner clear).1
    · intro inner middle again clear
      obtain ⟨isInner, rfl⟩ := one inner middle again
      exact (enters inner isInner clear).2

/-- Where everything can be reached, whatever a walk has to enter can be. -/
theorem of_accessible (accessible : files.Accessible links place path) (relative : String) :
    Walkable files rules links place path relative place.here.entries := by
  induction accessible generalizing relative with
  | intro readable short resolved below ih =>
      refine .intro short resolved ?_ ?_
      · intro item member inner left leads _
        cases below item member inner left leads with
        | intro readable _ _ _ => exact readable
      · intro item member inner left leads _
        exact ih item member inner left leads _

end Walkable

/-- What an entry leads to can be entered if it is a file, or ignored, or a directory to
be listed that can be walked over. -/
theorem enter_ok_iff {target : Located} :
    (∃ part, collector.enter files rules path relative target left = .ok part) ↔
      ∀ inner, target = .directory inner → rules.isIgnored relative true = false →
        inner.here.readable = true ∧
          ∃ part, collector.walkEntries files rules left inner path relative
            inner.here.entries = .ok part := by
  cases target with
  | file readable content =>
      rw [enter]
      split <;> simp
  | directory inner =>
      rw [enter]
      split
      · rename_i covered
        simp [covered]
      · rename_i clear
        split
        · rename_i readable
          simp [readable, clear]
        · rename_i unreadable
          simp [unreadable, clear]

theorem visit_ok_iff :
    (∃ part, collector.visit files rules links place path relative item = .ok part) ↔
      (Path.join path item.1).utf8ByteSize ≤ FileSystem.pathLimit ∧
        ∃ target left, files.resolve links place item.2 = .ok (target, left) ∧
          ∃ part, collector.enter files rules (Path.join path item.1)
            (relativePath relative item.1) target left = .ok part := by
  simp only [visit_eq_ok_iff]
  constructor
  · rintro ⟨part, short, target, left, resolved, entered⟩
    exact ⟨short, target, left, resolved, part, entered⟩
  · rintro ⟨short, target, left, resolved, part, entered⟩
    exact ⟨part, short, target, left, resolved, entered⟩

theorem walkEntries_cons_ok_iff :
    (∃ collection, collector.walkEntries files rules links place path relative
        (item :: others) = .ok collection) ↔
      (∃ part, collector.visit files rules links place path relative item = .ok part) ∧
        ∃ rest, collector.walkEntries files rules links place path relative others =
          .ok rest := by
  rw [walkEntries_cons]
  constructor
  · rintro ⟨collection, walked⟩
    obtain ⟨part, visited, walked⟩ := bind_eq_ok_iff.mp walked
    obtain ⟨rest, walkedOthers, _⟩ := bind_eq_ok_iff.mp walked
    exact ⟨⟨part, visited⟩, ⟨rest, walkedOthers⟩⟩
  · rintro ⟨⟨part, visited⟩, ⟨rest, walkedOthers⟩⟩
    exact ⟨part ++ rest,
      bind_eq_ok_iff.mpr ⟨part, visited, bind_eq_ok_iff.mpr ⟨rest, walkedOthers, rfl⟩⟩⟩

/-- A walk succeeds just if it can enter everything that it has to. -/
theorem walkEntries_ok_iff :
    (∃ collection, collector.walkEntries files rules links place path relative entries =
      .ok collection) ↔ Walkable files rules links place path relative entries := by
  induction links, place, entries using FileSystem.descent_induction files
    generalizing path relative with
  | nil links place =>
      have walkable : Walkable files rules links place path relative [] :=
        .intro (by simp) (by simp) (by simp) (by simp)
      exact ⟨fun _ => walkable, fun _ => ⟨{}, walkEntries_nil⟩⟩
  | cons links place name entry others inside ih =>
      rw [walkEntries_cons_ok_iff, Walkable.cons_iff, visit_ok_iff, ih]
      apply and_congr_left
      intro _
      apply and_congr_right
      intro _
      apply exists_congr
      intro target
      apply exists_congr
      intro left
      apply and_congr_right
      intro resolved
      rw [enter_ok_iff]
      apply forall_congr'
      rintro inner
      apply forall_congr'
      rintro rfl
      rw [inside inner left resolved]

/-- A walk from a root succeeds just if the root leads to a directory that can be listed
and the walk can enter everything that it has to. -/
theorem collect_ok_iff {root : String} :
    (∃ collection, collector.collect files root rules = .ok collection) ↔
      ∃ place links, files.locate root = .ok (.directory place, links) ∧
        place.here.readable = true ∧
        Walkable files rules links place root "" place.here.entries := by
  rw [collect]
  cases located : files.locate root with
  | error failure => simp
  | ok found =>
      obtain ⟨target, links⟩ := found
      cases target with
      | file readable content => simp
      | directory place =>
          simp only
          split
          · rename_i readable
            simp [readable, walkEntries_ok_iff]
          · rename_i unreadable
            simp [unreadable]

end Collector

end EnvAudit
