import EnvAudit.Proofs.Files.Descent
import Mathlib.Logic.Relation

/-!
# Where places stand

The directories of a tree are told apart by the names that lead to them from its root, no links
followed.  A path moves part by part from one of them to another, and a link on the way puts its
own parts in front.  Here the number of links does not matter.
-/

namespace EnvAudit

namespace FileSystem

/-- The names lead from the root of the tree to a place, no links followed. -/
inductive Stands (files : FileSystem) : List String → Place → Prop
  | top : Stands files [] files.top
  | down {way : List String} {place : Place} {name : String} {readable : Bool}
      {entries : List (String × Entry)} (stands : Stands files way place)
      (known : place.here.entries.lookup name = some (.directory readable entries)) :
      Stands files (way ++ [name]) (place.down ⟨readable, entries⟩)

/-- The names that lead to where a path starts from, given those of the current directory. -/
def wayOf (way : List String) (path : String) : List String :=
  if Path.isAbsolute path then [] else way

/-- The first part of a path is followed.  A state is the current directory, with the parts of the
path that are left. -/
inductive Step (files : FileSystem) : List String × List String → List String × List String → Prop
  | idle {way parts : List String} {part : String} (idle : Path.isIdle part = true) :
      Step files (way, part :: parts) (way, parts)
  | up {way parts : List String} : Step files (way, ".." :: parts) (way.dropLast, parts)
  | down {way parts : List String} {part : String} {place : Place} {readable : Bool}
      {entries : List (String × Entry)} (busy : ¬ Path.isIdle part = true) (notUp : part ≠ "..")
      (stands : files.Stands way place)
      (known : place.here.entries.lookup part = some (.directory readable entries)) :
      Step files (way, part :: parts) (way ++ [part], parts)
  | link {way parts : List String} {part target : String} {place : Place}
      (busy : ¬ Path.isIdle part = true) (notUp : part ≠ "..") (stands : files.Stands way place)
      (known : place.here.entries.lookup part = some (.link target)) :
      Step files (way, part :: parts) (wayOf way target, Path.parts target ++ parts)

/-- The parts of a path lead from one state to another. -/
def Reaches (files : FileSystem) : List String × List String → List String × List String → Prop :=
  Relation.ReflTransGen files.Step

variable {files : FileSystem} {way : List String} {place other : Place}

namespace Stands

theorem proper (filesProper : files.Proper) (stands : files.Stands way place) : place.Proper := by
  induction stands with
  | top => exact filesProper.top
  | down stands known ih =>
      exact ih.down (.of_directory (ih.here.inner _ (mem_of_lookup known)))

/-- A directory at the root stands under its name. -/
theorem at_top {name : String} {readable : Bool} {entries : List (String × Entry)}
    (known : files.root.entries.lookup name = some (.directory readable entries)) :
    files.Stands [name] (files.top.down ⟨readable, entries⟩) := by
  have start : files.Stands [] files.top := .top
  exact start.down known

theorem up (stands : files.Stands way place) : files.Stands way.dropLast place.up := by
  cases stands with
  | top => exact .top
  | down stands known =>
      rw [List.dropLast_concat]
      exact stands

theorem startOf (stands : files.Stands way place) (path : String) :
    files.Stands (wayOf way path) (files.startOf place path) := by
  rw [wayOf, FileSystem.startOf]
  split
  · exact .top
  · exact stands

theorem nil_iff : files.Stands [] other ↔ other = files.top := by
  constructor
  · intro stands
    generalize none : [] = way at stands
    cases stands with
    | top => rfl
    | down stands known => simp at none
  · rintro rfl
    exact .top

theorem concat_iff {name : String} : files.Stands (way ++ [name]) other ↔
    ∃ place readable entries, files.Stands way place ∧
      place.here.entries.lookup name = some (.directory readable entries) ∧
      other = place.down ⟨readable, entries⟩ := by
  constructor
  · intro stands
    generalize whole : way ++ [name] = longer at stands
    cases stands with
    | top => simp at whole
    | down stands known =>
        obtain ⟨rfl, same⟩ := List.append_inj' whole rfl
        cases same
        exact ⟨_, _, _, stands, known, rfl⟩
  · rintro ⟨place, readable, entries, stands, known, rfl⟩
    exact .down stands known

/-- Names lead to one place. -/
theorem unique (stands : files.Stands way place) (again : files.Stands way other) :
    place = other := by
  induction stands generalizing other with
  | top => exact (nil_iff.mp again).symm
  | down stands known ih =>
      obtain ⟨middle, readable, entries, middleStands, otherKnown, rfl⟩ := concat_iff.mp again
      obtain rfl := ih middleStands
      cases known.symm.trans otherKnown
      rfl

end Stands

theorem Step.at_top {parts : List String} {name : String} {readable : Bool}
    {entries : List (String × Entry)} (busy : ¬ Path.isIdle name = true) (notUp : name ≠ "..")
    (known : files.root.entries.lookup name = some (.directory readable entries)) :
    files.Step ([], name :: parts) ([name], parts) := by
  have start : files.Stands [] files.top := .top
  exact .down busy notUp start known

/-- There is one way to follow a part. -/
theorem Step.unique {state first second : List String × List String} (step : files.Step state first)
    (again : files.Step state second) : first = second := by
  cases step with
  | idle idle =>
      cases again with
      | idle _ => rfl
      | up => exact absurd idle (by decide)
      | down busy _ _ _ => exact absurd idle busy
      | link busy _ _ _ => exact absurd idle busy
  | up =>
      cases again with
      | idle idle => exact absurd idle (by decide)
      | up => rfl
      | down _ notUp _ _ => exact absurd rfl notUp
      | link _ notUp _ _ => exact absurd rfl notUp
  | down busy notUp stands known =>
      cases again with
      | idle idle => exact absurd idle busy
      | up => exact absurd rfl notUp
      | down _ _ _ _ => rfl
      | link _ _ otherStands otherKnown =>
          obtain rfl := stands.unique otherStands
          cases known.symm.trans otherKnown
  | link busy notUp stands known =>
      cases again with
      | idle idle => exact absurd idle busy
      | up => exact absurd rfl notUp
      | down _ _ otherStands otherKnown =>
          obtain rfl := stands.unique otherStands
          cases known.symm.trans otherKnown
      | link _ _ otherStands otherKnown =>
          obtain rfl := stands.unique otherStands
          cases known.symm.trans otherKnown
          rfl

/-- A path goes on from no file. -/
theorem Step.not_at_file {parts : List String} {part : String} {readable : Bool}
    {content : ByteArray} {next : List String × List String}
    (step : files.Step (way, part :: parts) next) (busy : ¬ Path.isIdle part = true)
    (notUp : part ≠ "..") (stands : files.Stands way place)
    (known : place.here.entries.lookup part = some (.file readable content)) : False := by
  cases step with
  | idle idle => exact busy idle
  | up => exact notUp rfl
  | down _ _ otherStands otherKnown =>
      obtain rfl := stands.unique otherStands
      cases known.symm.trans otherKnown
  | link _ _ otherStands otherKnown =>
      obtain rfl := stands.unique otherStands
      cases known.symm.trans otherKnown

/-- A path that is followed to its end ends at one directory. -/
theorem Reaches.end_unique {state : List String × List String} {first second : List String}
    (reaches : files.Reaches state (first, [])) (again : files.Reaches state (second, [])) :
    first = second := by
  have still {way : List String} {state : List String × List String}
      (further : files.Reaches (way, []) state) : state = (way, []) := by
    rcases Relation.ReflTransGen.cases_head further with same | ⟨_, step, _⟩
    · exact same.symm
    · cases step
  have oneWay : Relator.RightUnique files.Step := fun _ _ _ => Step.unique
  rcases Relation.ReflTransGen.total_of_right_unique oneWay reaches again with further | further
  · exact (congrArg Prod.fst (still further)).symm
  · exact congrArg Prod.fst (still further)

end FileSystem

end EnvAudit
