import EnvAudit.Config.Basic
import EnvAudit.Dialect
import EnvAudit.Ignore.Rules

/-!
# The walk over a tree

Every entry of a tree is visited, links followed, except for what stands below
an ignored directory.  The source files found are collected.
-/

namespace EnvAudit

namespace Dialect

/-- The dialect of the file that a path leads to. -/
def ofPath? (path : String) : Option Dialect :=
  (Path.extension? path).bind ofExtension?

end Dialect

/-- A source file that has been found. -/
structure SourceFile where
  path : String
  dialect : Dialect
  size : Nat
  deriving BEq, DecidableEq, Repr, Inhabited

/-- What a walk has found, in order. -/
structure Collection where
  files : List SourceFile := []
  /-- The source files that are too large. -/
  oversized : List String := []
  /-- The number of entries left out by the ignore rules. -/
  ignored : Nat := 0
  deriving BEq, DecidableEq, Repr, Inhabited

namespace Collection

def append (first second : Collection) : Collection where
  files := first.files ++ second.files
  oversized := first.oversized ++ second.oversized
  ignored := first.ignored + second.ignored

instance : Append Collection := ⟨append⟩

end Collection

/-- What a walk looks for. -/
structure Collector where
  extensions : List String
  maxFileSize : Nat
  deriving Inhabited

namespace Collector

def ofConfig (config : ScanConfig) : Collector where
  extensions := config.effectiveExtensions
  maxFileSize := config.effectiveMaxFileSize

/-- The dialect of a file with the given path, if its extension is wanted. -/
def dialectFor? (collector : Collector) (path : String) : Option Dialect := do
  let extension := (← Path.extension? path).toLower
  if collector.extensions.contains extension then
    Dialect.ofExtension? extension
  else
    none

/-- What a file adds to a collection. -/
def collectFile (collector : Collector) (path : String) (size : Nat) : Collection :=
  match collector.dialectFor? path with
  | none => {}
  | some dialect =>
      if collector.maxFileSize < size then
        { oversized := [path] }
      else
        { files := [⟨path, dialect, size⟩] }

/-- The path of an entry below the root of a walk, given that of its directory. -/
def relativePath (directory name : String) : String :=
  if directory = "" then name else directory ++ "/" ++ name

/-- Collects from the given entries of the directory at a place.  `path` leads
to the directory, through links of which `links` more may be followed;
`relative` is its path below the root of the walk.  Links can lead to paths that are
too long. -/
def walkEntries (collector : Collector) (files : FileSystem) (rules : IgnoreRules)
    (links : Nat) (place : Place) (path relative : String) :
    List (String × Entry) → Except ScanError Collection
  | [] => .ok {}
  | (name, entry) :: others => do
      let entryPath := Path.join path name
      let entryRelative := relativePath relative name
      if FileSystem.pathLimit < entryPath.utf8ByteSize then
        throw (.io entryPath .nameTooLong)
      let first ← match entry with
        | .file _ content =>
            if rules.isIgnored entryRelative false then
              pure { ignored := 1 }
            else
              pure (collector.collectFile entryPath content.size)
        | .directory readable entries =>
            if rules.isIgnored entryRelative true then
              pure { ignored := 1 }
            else if readable then
              walkEntries collector files rules links (place.down ⟨readable, entries⟩)
                entryPath entryRelative entries
            else
              throw (.io entryPath .accessDenied)
        | .link target =>
            match links with
            | 0 => throw (.io entryPath .tooManyLinks)
            | links + 1 =>
                match _found : files.follow links (files.startOf place target)
                    (Path.parts target) with
                | .error failure => throw (.io entryPath failure)
                | .ok (.file _ content, _) =>
                    if rules.isIgnored entryRelative false then
                      pure { ignored := 1 }
                    else
                      pure (collector.collectFile entryPath content.size)
                | .ok (.directory inner, left) =>
                    have := FileSystem.follow_links_le _found
                    if rules.isIgnored entryRelative true then
                      pure { ignored := 1 }
                    else if inner.here.readable then
                      walkEntries collector files rules left inner entryPath entryRelative
                        inner.here.entries
                    else
                      throw (.io entryPath .accessDenied)
      let rest ← walkEntries collector files rules links place path relative others
      return first ++ rest
termination_by entries => (links, sizeOf entries)

/-- Collects the source files below a root. -/
def collect (collector : Collector) (files : FileSystem) (root : String)
    (rules : IgnoreRules) : Except ScanError Collection :=
  match files.locate root with
  | .error failure => .error (.io root failure)
  | .ok (.file .., _) => .error (.io root .notADirectory)
  | .ok (.directory place, links) =>
      if place.here.readable then
        collector.walkEntries files rules links place root "" place.here.entries
      else
        .error (.io root .accessDenied)

end Collector

end EnvAudit
