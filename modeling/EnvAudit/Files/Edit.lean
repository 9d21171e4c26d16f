import EnvAudit.Files.Tree

/-!
# Changes to file systems

Entries are put at a path, or taken away from it.  Directories on the way to a
new entry come into being.
-/

namespace EnvAudit

namespace Directory

/-- The entries of a directory with one of them changed.  `none` stands for an
entry that there is not. -/
def alter (name : String) (change : Option Entry → Option Entry) :
    List (String × Entry) → List (String × Entry)
  | [] => ((change none).map fun entry => (name, entry)).toList
  | (other, entry) :: entries =>
      if other = name then
        match change (some entry) with
        | some entry => (other, entry) :: entries
        | none => entries
      else
        (other, entry) :: alter name change entries

theorem lookup_alter (name : String) (change : Option Entry → Option Entry)
    (entries : List (String × Entry)) {other : String} (different : other ≠ name) :
    (alter name change entries).lookup other = entries.lookup other := by
  have unequal : (other == name) = false := by simpa using different
  fun_induction alter name change entries with
  | case1 => cases change none <;> simp [List.lookup_cons, unequal]
  | case2 => simp [List.lookup_cons, unequal]
  | case3 => simp [List.lookup_cons, unequal]
  | case4 first entry entries _ ih =>
      by_cases same : other = first
      · simp [same]
      · have unequal : (other == first) = false := by simpa using same
        simp [List.lookup_cons, unequal, ih]

/-- Puts an entry where the parts of a path lead.  A directory that is there
already stays when an empty one is put in its place. -/
def putIn (entry : Entry) : List String → List (String × Entry) → List (String × Entry)
  | [], entries => entries
  | [name], entries => alter name (fun old =>
      match old, entry with
      | some (.directory readable kept), .directory _ [] => some (.directory readable kept)
      | _, _ => some entry) entries
  | name :: parts, entries => alter name (fun old =>
      match old with
      | some (.directory readable inner) => some (.directory readable (putIn entry parts inner))
      | _ => some (.directory true (putIn entry parts []))) entries

/-- Takes away the entry that the parts of a path lead to. -/
def eraseIn : List String → List (String × Entry) → List (String × Entry)
  | [], entries => entries
  | [name], entries => alter name (fun _ => none) entries
  | name :: parts, entries => alter name (fun old =>
      match old with
      | some (.directory readable inner) => some (.directory readable (eraseIn parts inner))
      | other => other) entries

end Directory

namespace FileSystem

/-- The parts of a path from the root that lead somewhere. -/
def partsFrom (files : FileSystem) (path : String) : List String :=
  (Path.parts (Path.join files.workingDirectory path)).filter fun part => !Path.isIdle part

/-- The file system after an entry has been put at a path without links. -/
def put (files : FileSystem) (path : String) (entry : Entry) : FileSystem :=
  { files with root := { files.root with
      entries := Directory.putIn entry (files.partsFrom path) files.root.entries } }

/-- The file system after the entry at a path without links has been taken
away. -/
def erase (files : FileSystem) (path : String) : FileSystem :=
  { files with root := { files.root with
      entries := Directory.eraseIn (files.partsFrom path) files.root.entries } }

end FileSystem

end EnvAudit
