import EnvAudit.Files.Failure
import EnvAudit.Files.Path

/-!
# File systems

A file system is a finite tree of directories, files and symbolic links.
`FileSystem.locate` follows a path through it, and through at most forty links
on the way, to the file or directory that the path leads to.
-/

namespace EnvAudit

/-- What a directory holds under a name. -/
inductive Entry where
  | file (readable : Bool) (content : ByteArray)
  | directory (readable : Bool) (entries : List (String × Entry))
  /-- A symbolic link with the path that it stands for. -/
  | link (target : String)
  deriving Inhabited

/-- A directory's own data. -/
structure Directory where
  readable : Bool
  entries : List (String × Entry)
  deriving Inhabited

/-- A directory with those above it, the nearest first. -/
structure Place where
  here : Directory
  above : List Directory
  deriving Inhabited

namespace Place

/-- The directory above; the root is above itself. -/
def up (place : Place) : Place :=
  match place.above with
  | [] => place
  | parent :: above => ⟨parent, above⟩

def down (place : Place) (directory : Directory) : Place :=
  ⟨directory, place.here :: place.above⟩

end Place

/-- What a path leads to. -/
inductive Located where
  | file (readable : Bool) (content : ByteArray)
  | directory (place : Place)
  deriving Inhabited

namespace Located

def isDirectory : Located → Bool
  | file .. => false
  | directory _ => true

/-- The number of bytes of a file. -/
def size : Located → Nat
  | file _ content => content.size
  | directory _ => 0

end Located

/-- A tree of files together with the directory that relative paths start
from. -/
structure FileSystem where
  root : Directory
  workingDirectory : String
  /-- The names in the tree whose bytes are no text.  The tree has them as they are shown. -/
  garbled : List String := []
  deriving Inhabited

namespace FileSystem

/-- The number of links that a path may lead through. -/
def linkLimit : Nat := 40

/-- The number of bytes that a name may have. -/
def nameLimit : Nat := 255

/-- The number of bytes that a path may have. -/
def pathLimit : Nat := 4095

/-- The place at the root of the tree. -/
def top (files : FileSystem) : Place :=
  ⟨files.root, []⟩

/-- The place that a path starts from, given the current one. -/
def startOf (files : FileSystem) (place : Place) (path : String) : Place :=
  if Path.isAbsolute path then files.top else place

/-- Follows the parts of a path from a place, through at most `links` links.
Gives what the path leads to and how many links are left. -/
def follow (files : FileSystem) (links : Nat) (place : Place) :
    List String → Except Failure (Located × Nat)
  | [] => .ok (.directory place, links)
  | part :: parts =>
      if Path.isIdle part then
        follow files links place parts
      else if part = ".." then
        follow files links place.up parts
      else
        match place.here.entries.lookup part with
        | none => .error (if nameLimit < part.utf8ByteSize then .nameTooLong else .noSuchEntry)
        | some (.directory readable entries) =>
            follow files links (place.down ⟨readable, entries⟩) parts
        | some (.file readable content) =>
            if parts = [] then
              .ok (.file readable content, links)
            else
              .error .notADirectory
        | some (.link target) =>
            match links with
            | 0 => .error .tooManyLinks
            | links + 1 =>
                follow files links (files.startOf place target) (Path.parts target ++ parts)
termination_by parts => (links, parts.length)

theorem follow_links_le {files : FileSystem} {links : Nat} {place : Place}
    {parts : List String} {found : Located} {left : Nat}
    (ends : follow files links place parts = .ok (found, left)) : left ≤ links := by
  fun_induction follow files links place parts generalizing found left with
  | case1 => simp_all
  | case2 links place part parts idle ih => exact ih ends
  | case3 links place parts idle ih => exact ih ends
  | case4 => contradiction
  | case5 links place part parts idle notUp readable entries known ih => exact ih ends
  | case6 => simp_all
  | case7 => contradiction
  | case8 => contradiction
  | case9 place part parts idle notUp target known links ih =>
      have := ih ends
      omega

/-- What a path leads to. -/
def locate (files : FileSystem) (path : String) : Except Failure (Located × Nat) :=
  if path = "" then
    .error .noSuchEntry
  else if path.toList.contains '\x00' then
    .error .nulInPath
  else if pathLimit < path.utf8ByteSize then
    .error .nameTooLong
  else
    follow files linkLimit files.top (Path.parts (Path.join files.workingDirectory path))

/-- The path leads to a file. -/
def isFile (files : FileSystem) (path : String) : Bool :=
  match files.locate path with
  | .ok (.file .., _) => true
  | _ => false

/-- All names in the path are texts. -/
def isText (files : FileSystem) (path : String) : Bool :=
  (Path.parts path).all fun part => !files.garbled.contains part

/-- The bytes of a located file. -/
def contentOf : Located → Except Failure ByteArray
  | .file true content => .ok content
  | .file false _ => .error .accessDenied
  | .directory _ => .error .isADirectory

/-- The bytes of the file that a path leads to. -/
def read (files : FileSystem) (path : String) : Except Failure ByteArray := do
  let (found, _) ← files.locate path
  contentOf found

/-- The text of the file that a path leads to. -/
def readText (files : FileSystem) (path : String) : Except Failure String := do
  let content ← files.read path
  match String.fromUTF8? content with
  | some text => .ok text
  | none => .error .notText

end FileSystem

end EnvAudit
