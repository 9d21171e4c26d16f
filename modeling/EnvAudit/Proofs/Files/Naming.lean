import EnvAudit.Files.Tree
import EnvAudit.Proofs.Text.Parts
import Mathlib.Data.List.Induction

/-!
# Names of entries and the paths that they make up

In a proper tree the entries of a directory have names of their own, and a name
holds no slash.  Then the names on the way from a root to an entry can be read
off the path of the entry, so different entries have different paths.
-/

namespace EnvAudit

/-- A text that an entry may have as its name. -/
structure IsName (name : String) : Prop where
  nonempty : name ≠ ""
  moves : name ≠ "." ∧ name ≠ ".."
  plain : '/' ∉ name.toList

instance (name : String) : Decidable (IsName name) :=
  decidable_of_iff (name ≠ "" ∧ (name ≠ "." ∧ name ≠ "..") ∧ '/' ∉ name.toList)
    ⟨fun ⟨nonempty, moves, plain⟩ => ⟨nonempty, moves, plain⟩,
      fun isName => ⟨isName.nonempty, isName.moves, isName.plain⟩⟩

namespace Trail

/-- The path of what the names lead to from a root. -/
def path (root : String) (names : List String) : String :=
  names.foldl Path.join root

/-- The path of what the names lead to below a root. -/
def relative (names : List String) : String :=
  "/".intercalate names

@[simp]
theorem path_nil (root : String) : path root [] = root :=
  rfl

theorem path_concat (root : String) (names : List String) (name : String) :
    path root (names ++ [name]) = Path.join (path root names) name := by
  simp [path]

theorem relative_concat {names : List String} (nonempty : names ≠ []) (name : String) :
    relative (names ++ [name]) = relative names ++ "/" ++ name := by
  simpa [relative] using String.intercalate_append_of_ne_nil (s := "/") nonempty
    (List.cons_ne_nil name [])

/-- The beginning that all paths below a root share. -/
def base (root : String) : String :=
  if root == "" || root.toList.getLast? == some '/' then root else root ++ "/"

end Trail

theorem Path.join_of_relative {base path : String} (relative : isAbsolute path = false) :
    join base path = Trail.base base ++ path := by
  rw [join, relative, Trail.base]
  by_cases closed : (base == "" || base.toList.getLast? == some '/') = true
  · rw [if_pos closed, if_pos closed]
    rfl
  · rw [if_neg closed, if_neg closed]
    rfl

namespace IsName

variable {name : String} {names : List String}

theorem join_eq (isName : IsName name) (root : String) :
    Path.join root name = Trail.base root ++ name := by
  have notAbsolute : Path.isAbsolute name = false := by
    have plain := isName.plain
    rw [Path.isAbsolute]
    cases letters : name.toList with
    | nil => rfl
    | cons c rest =>
        have different : c ≠ '/' := by
          intro same
          simp [letters, same] at plain
        simpa using different
  exact Path.join_of_relative notAbsolute

theorem relative_ne_empty (areNames : ∀ name ∈ names, IsName name) (nonempty : names ≠ []) :
    Trail.relative names ≠ "" := by
  cases names with
  | nil => exact absurd rfl nonempty
  | cons name others =>
      have first := (areNames name (by simp)).nonempty
      cases others with
      | nil => simpa [Trail.relative] using first
      | cons next others => simp [Trail.relative]

end IsName

namespace Trail

theorem base_of_name {text name : String} (isName : IsName name) :
    base (text ++ name) = text ++ name ++ "/" := by
  have letters : name.toList ≠ [] := fun none => isName.nonempty (String.toList_eq_nil_iff.mp none)
  have last : (text ++ name).toList.getLast? ≠ some '/' := by
    intro slash
    rw [String.toList_append, List.getLast?_append, List.getLast?_eq_some_getLast letters] at slash
    have atEnd : name.toList.getLast letters = '/' := by simpa using slash
    exact isName.plain (atEnd ▸ List.getLast_mem letters)
  have whole : text ++ name ≠ "" := by
    intro none
    apply letters
    have := congrArg String.toList none
    simp_all
  rw [base, if_neg]
  simpa [whole] using last

theorem relative_ends {names : List String} (areNames : ∀ name ∈ names, IsName name)
    (nonempty : names ≠ []) :
    ∃ text last, IsName last ∧ relative names = text ++ last := by
  obtain ⟨before, last, rfl⟩ := (List.eq_nil_or_concat names).resolve_left nonempty
  refine ⟨if before = [] then "" else relative before ++ "/", last, areNames last (by simp), ?_⟩
  by_cases first : before = []
  · simp [first, relative]
  · rw [if_neg first, List.concat_eq_append, relative_concat first]

/-- The path of what names lead to is the beginning of all paths below the root and
then the names between slashes. -/
theorem path_eq {names : List String} (areNames : ∀ name ∈ names, IsName name)
    (nonempty : names ≠ []) (root : String) :
    path root names = base root ++ relative names := by
  induction names using List.reverseRecOn with
  | nil => exact absurd rfl nonempty
  | append_singleton before name ih =>
      have isName : IsName name := areNames name (by simp)
      rw [path_concat, isName.join_eq]
      by_cases first : before = []
      · subst first
        simp [relative]
      · have whole := ih (fun other member => areNames other (by simp [member])) first
        obtain ⟨text, last, isLast, ends⟩ := relative_ends
          (fun other member => areNames other (by simp [member])) first
        rw [whole, relative_concat first, ends, ← String.append_assoc, base_of_name isLast]
        simp only [String.append_assoc]

/-- The names can be read off a path below the root. -/
theorem relative_injective {first second : List String}
    (firstNames : ∀ name ∈ first, IsName name) (secondNames : ∀ name ∈ second, IsName name)
    (firstNonempty : first ≠ []) (secondNonempty : second ≠ [])
    (same : relative first = relative second) : first = second := by
  have parts (names : List String) (areNames : ∀ name ∈ names, IsName name)
      (nonempty : names ≠ []) :
      Text.splitChars '/' (relative names).toList = names.map String.toList := by
    have slash : "/".toList = ['/'] := rfl
    rw [relative, String.toList_intercalate, slash]
    apply Text.splitChars_intercalate
    · simpa using nonempty
    · intro part member
      obtain ⟨name, inNames, rfl⟩ := List.mem_map.mp member
      exact (areNames name inNames).plain
  have equal : first.map String.toList = second.map String.toList := by
    rw [← parts first firstNames firstNonempty, ← parts second secondNames secondNonempty, same]
  exact Function.Injective.list_map (fun _ _ => String.ext) equal

theorem path_injective {first second : List String} {root : String}
    (firstNames : ∀ name ∈ first, IsName name) (secondNames : ∀ name ∈ second, IsName name)
    (firstNonempty : first ≠ []) (secondNonempty : second ≠ [])
    (same : path root first = path root second) : first = second := by
  rw [path_eq firstNames firstNonempty, path_eq secondNames secondNonempty] at same
  have relatives := (String.append_right_inj _).mp same
  exact relative_injective firstNames secondNames firstNonempty secondNonempty relatives

end Trail

end EnvAudit
