import EnvAudit.Proofs.Except
import EnvAudit.Proofs.Files.Descent
import EnvAudit.Walk
import Mathlib.Algebra.GroupWithZero.Nat

/-!
# Visits of a walk

A walk over the entries of a directory resolves one entry after the other and
adds what it leads to.  This file splits the walk into these visits.
-/

namespace EnvAudit

attribute [ext] Collection

namespace Collection

@[simp]
theorem files_append (first second : Collection) :
    (first ++ second).files = first.files ++ second.files :=
  rfl

@[simp]
theorem oversized_append (first second : Collection) :
    (first ++ second).oversized = first.oversized ++ second.oversized :=
  rfl

@[simp]
theorem ignored_append (first second : Collection) :
    (first ++ second).ignored = first.ignored + second.ignored :=
  rfl

/-- Parts of a collection in order. -/
def gather (parts : List Collection) : Collection :=
  parts.foldr (· ++ ·) {}

@[simp]
theorem files_gather (parts : List Collection) :
    (gather parts).files = parts.flatMap Collection.files := by
  induction parts with
  | nil => rfl
  | cons part parts ih => simpa [gather] using ih

@[simp]
theorem oversized_gather (parts : List Collection) :
    (gather parts).oversized = parts.flatMap Collection.oversized := by
  induction parts with
  | nil => rfl
  | cons part parts ih => simpa [gather] using ih

@[simp]
theorem ignored_gather (parts : List Collection) :
    (gather parts).ignored = (parts.map Collection.ignored).sum := by
  induction parts with
  | nil => rfl
  | cons part parts ih => simpa [gather] using ih

@[simp]
theorem gather_singleton (part : Collection) : gather [part] = part := by
  ext1 <;> simp

theorem gather_append (first second : List Collection) :
    gather (first ++ second) = gather first ++ gather second := by
  ext1 <;> simp

end Collection

namespace Collector

/-- What a file or directory with the given path adds to a collection, when
`left` links may be followed from there. -/
def enter (collector : Collector) (files : FileSystem) (rules : IgnoreRules)
    (path relative : String) : Located → (left : Nat) → Except ScanError Collection
  | .file _ content, _ =>
      if rules.isIgnored relative false then
        .ok { ignored := 1 }
      else
        .ok (collector.collectFile path content.size)
  | .directory inner, left =>
      if rules.isIgnored relative true then
        .ok { ignored := 1 }
      else if inner.here.readable then
        collector.walkEntries files rules left inner path relative inner.here.entries
      else
        .error (.io path .accessDenied)

/-- What the entry of a directory under a name adds to a collection. -/
def visit (collector : Collector) (files : FileSystem) (rules : IgnoreRules) (links : Nat)
    (place : Place) (path relative : String) (item : String × Entry) :
    Except ScanError Collection :=
  let entryPath := Path.join path item.1
  if FileSystem.pathLimit < entryPath.utf8ByteSize then
    .error (.io entryPath .nameTooLong)
  else
    match files.resolve links place item.2 with
    | .error failure => .error (.io entryPath failure)
    | .ok (target, left) =>
        collector.enter files rules entryPath (relativePath relative item.1) target left

variable {collector : Collector} {files : FileSystem} {rules : IgnoreRules} {links : Nat}
variable {place : Place} {path relative : String}

/-- A visit adds something just if the path is short, the entry leads somewhere, and what
it leads to adds it. -/
theorem visit_eq_ok_iff {item : String × Entry} {part : Collection} :
    collector.visit files rules links place path relative item = .ok part ↔
      (Path.join path item.1).utf8ByteSize ≤ FileSystem.pathLimit ∧
        ∃ target left, files.resolve links place item.2 = .ok (target, left) ∧
          collector.enter files rules (Path.join path item.1) (relativePath relative item.1)
            target left = .ok part := by
  rw [visit]
  constructor
  · intro visited
    split at visited
    · contradiction
    · rename_i short
      split at visited
      · contradiction
      · rename_i target left resolved
        exact ⟨Nat.le_of_not_lt short, target, left, resolved, visited⟩
  · rintro ⟨short, target, left, resolved, entered⟩
    rw [if_neg (Nat.not_lt.mpr short), resolved]
    exact entered

@[simp]
theorem walkEntries_nil :
    collector.walkEntries files rules links place path relative [] = .ok {} := by
  rw [walkEntries]

/-- A walk visits the first entry and then walks over the others. -/
theorem walkEntries_cons (item : String × Entry) (others : List (String × Entry)) :
    collector.walkEntries files rules links place path relative (item :: others) = (do
      let first ← collector.visit files rules links place path relative item
      let rest ← collector.walkEntries files rules links place path relative others
      return first ++ rest) := by
  obtain ⟨name, entry⟩ := item
  rw [walkEntries, visit]
  split
  · rfl
  · cases entry with
    | file readable content =>
        simp only [FileSystem.resolve, enter]
        split <;> rfl
    | directory readable entries =>
        simp only [FileSystem.resolve, enter, Place.down]
        split
        · rfl
        · split <;> rfl
    | link target =>
        cases links with
        | zero => rfl
        | succ links =>
            simp only [FileSystem.resolve]
            split
            · rename_i failure found
              simp only [found]
              rfl
            · rename_i readable content left found
              simp only [found, enter]
              split <;> rfl
            · rename_i inner left found
              simp only [found, enter]
              split
              · rfl
              · split <;> rfl

end Collector

end EnvAudit
