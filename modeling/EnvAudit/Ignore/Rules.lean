import EnvAudit.Files.Tree
import EnvAudit.Error
import EnvAudit.Ignore.Glob
import EnvAudit.Text.Blank

/-!
# Ignore rules

Lines of ignore files, and patterns given besides them, say which entries of a
tree are left out.  Of the rules that apply to an entry the last one decides.
-/

namespace EnvAudit

/-- A rule about the entries that a glob covers. -/
structure IgnoreRule where
  glob : Glob
  /-- The rule takes entries back in. -/
  negated : Bool
  /-- The rule is about directories only. -/
  directoriesOnly : Bool
  deriving Inhabited

namespace IgnoreRule

/-- The rule applies to the entry with the given path and kind. -/
def applies (rule : IgnoreRule) (path : ByteArray) (isDirectory : Bool) : Bool :=
  (isDirectory || !rule.directoriesOnly) && rule.glob.matchesPath path

/-- A line without the blanks at its end, unless the last one is escaped. -/
def trimLine (line : List Char) : List Char :=
  if line.reverse.take 2 = [' ', '\\'] then line else Text.trimEndChars line

/-- The text of a glob in a line: without the marks for negation, for the
beginning of the path and for directories. -/
structure Marks where
  negated : Bool
  anchored : Bool
  directoriesOnly : Bool
  body : List Char

/-- Takes off the marks at the beginning of a line. -/
def leadingMarks (line : List Char) : Marks :=
  match line with
  | '\\' :: '!' :: rest => ⟨false, false, false, '!' :: rest⟩
  | '\\' :: '#' :: rest => ⟨false, false, false, '#' :: rest⟩
  | '!' :: '/' :: rest => ⟨true, true, false, rest⟩
  | '!' :: rest => ⟨true, false, false, rest⟩
  | '/' :: rest => ⟨false, true, false, rest⟩
  | line => ⟨false, false, false, line⟩

/-- Takes off the mark at the end, a slash that may be escaped. -/
def trailingMark (marks : Marks) : Marks :=
  match marks.body.reverse with
  | '/' :: '\\' :: before => { marks with directoriesOnly := true, body := before.reverse }
  | '/' :: before => { marks with directoriesOnly := true, body := before.reverse }
  | _ => marks

/-- The text of the glob that covers whole paths.  Without a slash, a name may
stand in any directory; two stars at the end stand for what is below. -/
def globText (marks : Marks) : List Char :=
  let anywhere := !marks.anchored && !marks.body.contains '/' && marks.body != ['*', '*']
  let body := if anywhere then '*' :: '*' :: '/' :: marks.body else marks.body
  if body.reverse.take 3 = ['*', '*', '/'] then body ++ ['/', '*'] else body

/-- The rule of a line, if the line holds one. -/
def ofLine? (line : List Char) : Except GlobError (Option IgnoreRule) :=
  if line.head? = some '#' || trimLine line = [] then
    .ok none
  else
    let marks := trailingMark (leadingMarks (trimLine line))
    match Glob.ofChars (globText marks) with
    | .error error => .error error
    | .ok glob => .ok (some ⟨glob, marks.negated, marks.directoriesOnly⟩)

end IgnoreRule

/-- What is wrong with a line of an ignore file. -/
inductive LineFault where
  | unreadable (failure : Failure)
  | badGlob (line : String) (error : GlobError)
  deriving BEq, DecidableEq, Repr

/-- A fault together with the number of its line. -/
structure IgnoreFault where
  line : Nat
  fault : LineFault
  deriving BEq, DecidableEq, Repr

namespace LineFault

def message : LineFault → String
  | unreadable failure => failure.message
  | badGlob line error => s!"error parsing glob '{line}': {error.message}"

end LineFault

/-- The message that tells of a fault in the given file. -/
def IgnoreFault.message (fault : IgnoreFault) (path : String) : String :=
  s!"{path}: line {fault.line}: {fault.fault.message}"

namespace IgnoreFile

/-- The lines of a file as bytes, without the ends of lines. -/
def splitLines : List UInt8 → List (List UInt8)
  | [] => []
  | byte :: rest =>
      if byte = 0x0A then
        [] :: splitLines rest
      else if byte = 0x0D && rest.head? = some 0x0A then
        splitLines rest
      else
        match splitLines rest with
        | [] => [[byte]]
        | line :: lines => (byte :: line) :: lines

/-- The characters of a line, if its bytes are text. -/
def decodeLine (line : List UInt8) : Option (List Char) :=
  (String.fromUTF8? ⟨line.toArray⟩).map String.toList

/-- What the lines of a file hold: rules and faults, in order. -/
structure Content where
  rules : List IgnoreRule
  faults : List IgnoreFault

/-- Reads lines from the given number on; reading ends at bytes that are not
text. -/
def readLines : (number : Nat) → List (List UInt8) → Content
  | _, [] => ⟨[], []⟩
  | number, line :: lines =>
      match decodeLine line with
      | none => ⟨[], [⟨number, .unreadable .notText⟩]⟩
      | some chars =>
          let chars := if number = 1 then chars.dropWhile (· == '\ufeff') else chars
          let others := readLines (number + 1) lines
          match IgnoreRule.ofLine? chars with
          | .ok none => others
          | .ok (some rule) => { others with rules := rule :: others.rules }
          | .error error =>
              let line := String.ofList (IgnoreRule.trimLine chars)
              { others with faults := ⟨number, .badGlob line error⟩ :: others.faults }

def ofBytes (bytes : ByteArray) : Content :=
  readLines 1 (splitLines bytes.toList)

end IgnoreFile

/-- The rules of a tree, in the order in which they were given. -/
structure IgnoreRules where
  /-- The root of the tree as it was named. -/
  root : String
  rules : List IgnoreRule
  /-- The ignore files that were read. -/
  sources : List String
  deriving Inhabited

namespace IgnoreRules

/-- Rules that leave nothing out. -/
def none : IgnoreRules := ⟨"", [], []⟩

def isEmpty (rules : IgnoreRules) : Bool :=
  rules.rules.isEmpty

/-- A text without the given beginning, if it has that. -/
def dropStart? (start text : List Char) : Option (List Char) :=
  if start.isPrefixOf text then some (text.drop start.length) else Option.none

/-- A path without the dot and slash at its beginning. -/
def dropDot (path : List Char) : List Char :=
  (dropStart? ['.', '/'] path).getD path

/-- A path as rules see it: without the root of the tree at its beginning. -/
def stripped (rules : IgnoreRules) (relative : String) : String :=
  let path := dropDot relative.toList
  let root := dropDot rules.root.toList
  if root = ['.'] || !path.contains '/' then
    .ofList path
  else
    match dropStart? root path with
    | some inner => .ofList ((dropStart? ['/'] inner).getD inner)
    | Option.none => .ofList path

/-- The rule that decides about an entry, if any applies. -/
def deciding? (rules : IgnoreRules) (relative : String) (isDirectory : Bool) :
    Option IgnoreRule :=
  let path := (rules.stripped relative).toUTF8
  rules.rules.reverse.find? fun rule => rule.applies path isDirectory

/-- The entry with the given path below the root is left out. -/
def isIgnored (rules : IgnoreRules) (relative : String) (isDirectory : Bool) : Bool :=
  (rules.deciding? relative isDirectory).any fun rule => !rule.negated

/-- What an ignore file holds, if there is one.  A file whose only fault is that it
cannot be read is an error. -/
def readFile? (files : FileSystem) (path : String) :
    Except ScanError (Option IgnoreFile.Content) :=
  if files.isFile path then
    match files.read path with
    | .error failure => .error (.ignoreFile path s!"{path}: {failure.message}")
    | .ok bytes =>
        let content := IgnoreFile.ofBytes bytes
        match content.faults with
        | [⟨line, .unreadable failure⟩] =>
            .error (.ignoreFile path (IgnoreFault.message ⟨line, .unreadable failure⟩ path))
        | _ => .ok (some content)
  else
    .ok Option.none

/-- Adds the rules of an ignore file, and passes over its faults. -/
def addFile (files : FileSystem) (rules : IgnoreRules) (name : String) :
    Except ScanError IgnoreRules := do
  let path := Path.join rules.root name
  match ← readFile? files path with
  | Option.none => return rules
  | some content =>
      return { rules with
        rules := rules.rules ++ content.rules
        sources := rules.sources ++ [path] }

/-- The ignore files with faults that are passed over, up to the first one that is
an error. -/
def passedOver (files : FileSystem) (root : String) :
    (names : List String) → List (String × List IgnoreFault)
  | [] => []
  | name :: names =>
      let path := Path.join root name
      match readFile? files path with
      | .error _ => []
      | .ok Option.none => passedOver files root names
      | .ok (some content) =>
          if content.faults = [] then
            passedOver files root names
          else
            (path, content.faults) :: passedOver files root names

/-- The path that stands for patterns given besides ignore files. -/
def extraSource : String := "scan.extra_ignore"

/-- Adds a pattern given besides ignore files. -/
def addPattern (rules : IgnoreRules) (pattern : String) : Except ScanError IgnoreRules :=
  match IgnoreRule.ofLine? pattern.toList with
  | .ok Option.none => .ok rules
  | .ok (some rule) => .ok { rules with rules := rules.rules ++ [rule] }
  | .error error =>
      let line := String.ofList (IgnoreRule.trimLine pattern.toList)
      .error (.ignoreFile extraSource (LineFault.badGlob line error).message)

/-- The rules of the tree at `root`: those of its ignore files, and then those of
the patterns. -/
def load (files : FileSystem) (root : String) (names patterns : List String) :
    Except ScanError IgnoreRules := do
  let rules ← names.foldlM (addFile files) ⟨root, [], []⟩
  patterns.foldlM addPattern rules

end IgnoreRules

end EnvAudit
