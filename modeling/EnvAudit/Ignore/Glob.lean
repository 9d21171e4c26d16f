/-!
# Globs

A glob describes paths.  `Glob.ofChars` reads one; `Glob.matchesPath` decides
whether it covers all of a path.  Matching is by bytes: from a place in a path
each part of a glob leads to several later places.
-/

namespace EnvAudit

/-- One part of a glob. -/
inductive GlobPart where
  | char (c : Char)
  /-- One byte within a name. -/
  | anyByte
  /-- Any bytes within a name. -/
  | anyBytes
  /-- Any directories at the beginning, or none. -/
  | leadingDirectories
  /-- Any directories between two slashes, or none. -/
  | innerDirectories
  /-- Everything below a directory. -/
  | allBelow
  /-- One byte of the given ranges of characters, or one outside of them. -/
  | oneOf (negated : Bool) (ranges : List (Char × Char))
  /-- Any of several rows of parts. -/
  | choice (branches : List (List GlobPart))
  deriving Inhabited

/-- Why a text is no glob. -/
inductive GlobError where
  | invalidRange (first last : Char)
  | unopenedChoice
  | unclosedChoice
  | danglingEscape
  deriving BEq, DecidableEq, Repr

/-- The message that tells of a text that is no glob. -/
def GlobError.message : GlobError → String
  | invalidRange first last => s!"invalid range; '{first}' > '{last}'"
  | unopenedChoice =>
      "unopened alternate group; missing '\x7b' (maybe escape '\x7d' with '[\x7d]'?)"
  | unclosedChoice =>
      "unclosed alternate group; missing '\x7d' (maybe escape '\x7b' with '[\x7b]'?)"
  | danglingEscape => "dangling '\\'"

abbrev Glob := List GlobPart

namespace Glob

/-- What has been read of a glob: rows of parts are kept last part first. -/
structure Reading where
  /-- The row being read. -/
  row : List GlobPart
  /-- The open choices, the innermost first: the row that each stands in and its
  branches so far, the last first. -/
  openChoices : List (List GlobPart × List (List GlobPart))
  /-- The last character. -/
  last : Option Char
  /-- A bracket has turned out to have no end. -/
  bracketsEnded : Bool

namespace Reading

def start : Reading := ⟨[], [], none, false⟩

/-- Takes a character as the given parts. -/
def push (reading : Reading) (last : Char) (parts : List GlobPart) : Reading :=
  { reading with row := parts.reverse ++ reading.row, last := some last }

/-- Replaces the last part. -/
def replaceLast (reading : Reading) (last : Char) (change : GlobPart → GlobPart) : Reading :=
  { reading with
    row := match reading.row with
      | [] => []
      | part :: row => change part :: row
    last := some last }

/-- Begins a choice. -/
def openChoice (reading : Reading) : Reading :=
  { reading with
    row := []
    openChoices := (reading.row, []) :: reading.openChoices
    last := some '\x7b' }

/-- Ends a branch of a choice; outside of choices a comma stands for itself. -/
def nextBranch (reading : Reading) : Reading :=
  match reading.openChoices with
  | [] => reading.push ',' [.char ',']
  | (outer, branches) :: others =>
      { reading with
        row := []
        openChoices := (outer, reading.row.reverse :: branches) :: others
        last := some ',' }

/-- Ends a choice. -/
def closeChoice (reading : Reading) : Except GlobError Reading :=
  match reading.openChoices with
  | [] => .error .unopenedChoice
  | (outer, branches) :: others =>
      .ok { reading with
        row := .choice (reading.row.reverse :: branches).reverse :: outer
        openChoices := others
        last := some '\x7d' }

/-- The parts of a glob that has been read to its end. -/
def finish (reading : Reading) : Except GlobError Glob :=
  if reading.openChoices.isEmpty then
    .ok reading.row.reverse
  else
    .error .unclosedChoice

end Reading

/-- The ranges between brackets, the last first, after those read so far.
`pending` says that a dash awaits the end of the last range. -/
def readRanges : (ranges : List (Char × Char)) → (pending : Bool) → List Char →
    Except GlobError (List (Char × Char))
  | ranges, pending, [] => .ok (if pending then ('-', '-') :: ranges else ranges)
  | [], _, c :: rest => readRanges [(c, c)] false rest
  | (first, _) :: ranges, true, c :: rest =>
      if c < first then
        .error (.invalidRange first c)
      else
        readRanges ((first, c) :: ranges) false rest
  | range :: ranges, false, c :: rest =>
      if c = '-' then
        readRanges (range :: ranges) true rest
      else
        readRanges ((c, c) :: range :: ranges) false rest

/-- What follows an opening bracket: the part that it begins and the rest, or
nothing if there is no closing bracket. -/
def readBracket (chars : List Char) : Except GlobError (Option (GlobPart × List Char)) :=
  let negated := chars.head? == some '!' || chars.head? == some '^'
  let inner := if negated then chars.drop 1 else chars
  let content := inner.take 1 ++ (inner.drop 1).takeWhile (· != ']')
  let rest := (inner.drop 1).dropWhile (· != ']')
  match readRanges [] false content with
  | .error error => .error error
  | .ok ranges =>
      match rest with
      | [] => .ok none
      | _ :: rest => .ok (some (.oneOf negated ranges.reverse, rest))

theorem readBracket_length {chars rest : List Char} {part : GlobPart}
    (found : readBracket chars = .ok (some (part, rest))) : rest.length < chars.length + 1 := by
  have shorter : ∀ inner : List Char, inner.length ≤ chars.length →
      ∀ tail : Char, (inner.drop 1).dropWhile (· != ']') = tail :: rest →
        rest.length < chars.length + 1 := by
    intro inner bound tail split
    have drops := (List.dropWhile_suffix (l := inner.drop 1) (· != ']')).length_le
    rw [split] at drops
    simp only [List.length_cons, List.length_drop] at drops
    omega
  simp only [readBracket] at found
  split at found
  · contradiction
  · split at found
    · simp at found
    · rename_i tail others split
      simp only [Except.ok.injEq, Option.some.injEq, Prod.mk.injEq] at found
      obtain ⟨-, rfl⟩ := found
      refine shorter _ ?_ tail split
      split
      · simp
      · simp

/-- The last character lets two stars stand for directories in its place: it is a
slash or, within a choice, an escaped mark of the choice. -/
def leadsToDirectories (reading : Reading) : Bool :=
  reading.last == some '/' ||
    (!reading.openChoices.isEmpty && (reading.last == some ',' || reading.last == some '\x7b'))

/-- Two stars together: at the beginning of a row and between slashes they stand
for whole directories.  Gives what has been read and the rest. -/
def readStars (reading : Reading) (rest : List Char) : Reading × List Char :=
  let plain := reading.push '*' [.anyBytes, .anyBytes]
  if reading.row.isEmpty then
    match rest with
    | [] => (reading.push '*' [.leadingDirectories], [])
    | '/' :: rest => (reading.push '/' [.leadingDirectories], rest)
    | rest => (plain, rest)
  else if !leadsToDirectories reading then
    (plain, rest)
  else
    let spanning (inner : GlobPart) : GlobPart → GlobPart
      | .leadingDirectories => .leadingDirectories
      | .allBelow => .allBelow
      | _ => inner
    match rest with
    | [] => (reading.replaceLast '*' (spanning .allBelow), [])
    | '/' :: rest => (reading.replaceLast '/' (spanning .innerDirectories), rest)
    | c :: rest =>
        if (c = ',' || c = '\x7d') && !reading.openChoices.isEmpty then
          (reading.replaceLast '*' (spanning .allBelow), c :: rest)
        else
          (plain, c :: rest)

theorem readStars_length (reading : Reading) (rest : List Char) :
    (readStars reading rest).2.length ≤ rest.length := by
  unfold readStars
  dsimp only
  repeat' split
  all_goals simp

/-- Reads on from what has been read. -/
def readOn (reading : Reading) : List Char → Except GlobError Glob
  | [] => reading.finish
  | '?' :: rest => readOn (reading.push '?' [.anyByte]) rest
  | '*' :: '*' :: rest =>
      have := readStars_length reading rest
      readOn (readStars reading rest).1 (readStars reading rest).2
  | '*' :: rest => readOn (reading.push '*' [.anyBytes]) rest
  | '[' :: rest =>
      if reading.bracketsEnded then
        readOn (reading.push '[' [.char '[']) rest
      else
        match _found : readBracket rest with
        | .error error => .error error
        | .ok (some (part, after)) =>
            have := readBracket_length _found
            readOn (reading.push ']' [part]) after
        | .ok none => readOn { reading.push '[' [.char '['] with bracketsEnded := true } rest
  | '\x7b' :: rest => readOn reading.openChoice rest
  | '\x7d' :: rest =>
      match reading.closeChoice with
      | .error error => .error error
      | .ok reading => readOn reading rest
  | ',' :: rest => readOn reading.nextBranch rest
  | ['\\'] => .error .danglingEscape
  | '\\' :: c :: rest => readOn (reading.push c [.char c]) rest
  | c :: rest => readOn (reading.push c [.char c]) rest
termination_by chars => chars.length
decreasing_by all_goals simp_all <;> omega

/-- Reads a glob. -/
def ofChars (chars : List Char) : Except GlobError Glob :=
  readOn .start chars

/-- The bytes that encode a character. -/
def encoded (c : Char) : List UInt8 :=
  (String.singleton c).toUTF8.toList

/-- The first and last bytes that ranges of characters stand for.  A character
of several bytes stands for each of them. -/
def byteRanges (ranges : List (Char × Char)) : List (UInt8 × UInt8) :=
  ranges.flatMap fun (first, last) =>
    let low := encoded first
    let high := encoded last
    let single (byte : UInt8) : UInt8 × UInt8 := (byte, byte)
    if first = last then
      low.map single
    else
      low.dropLast.map single ++ [(low.getLast?.getD 0, high.head?.getD 0)] ++
        high.tail.map single

/-- The byte of a slash. -/
def slash : UInt8 := 0x2F

/-- The places from `i` on, up to the first slash or the end. -/
def withinName (path : ByteArray) (i : Nat) : List Nat :=
  match _inside : path[i]? with
  | none => [i]
  | some byte => if byte = slash then [i] else i :: withinName path (i + 1)
termination_by path.size - i
decreasing_by
  have := getElem?_eq_some_iff.1 _inside |>.1
  omega

/-- The places behind the slashes from `i` on. -/
def behindSlashes (path : ByteArray) (i : Nat) : List Nat :=
  (List.range' i (path.size - i)).filterMap fun j =>
    if path[j]? = some slash then some (j + 1) else none

mutual

/-- The part is a choice that offers no text at all. -/
def isVoid : GlobPart → Bool
  | .choice branches => areVoid branches
  | _ => false

/-- None of the branches offers any text. -/
def areVoid : List (List GlobPart) → Bool
  | [] => true
  | branch :: branches => isVoidRow branch && areVoid branches

/-- The row of parts offers no text. -/
def isVoidRow : List GlobPart → Bool
  | [] => true
  | part :: parts => isVoid part && isVoidRow parts

end

mutual

/-- The places to which a part leads from a place. -/
def placesAfter (path : ByteArray) : GlobPart → Nat → List Nat
  | .char c, i =>
      let bytes := encoded c
      if (List.range bytes.length).all fun k => path[i + k]? == bytes[k]? then
        [i + bytes.length]
      else
        []
  | .anyByte, i =>
      match path[i]? with
      | some byte => if byte = slash then [] else [i + 1]
      | none => []
  | .anyBytes, i => withinName path i
  | .leadingDirectories, i => i :: behindSlashes path i
  | .innerDirectories, i => if path[i]? = some slash then behindSlashes path i else []
  | .allBelow, i =>
      if path[i]? = some slash then List.range' (i + 1) (path.size - i) else []
  | .oneOf negated ranges, i =>
      match path[i]? with
      | some byte =>
          let inside := (byteRanges ranges).any fun (low, high) => low ≤ byte && byte ≤ high
          if inside != negated then [i + 1] else []
      | none => []
  | .choice branches, i =>
      if areVoid branches then [i] else placesAfterAny path branches i

/-- The places to which any of the branches leads.  A branch that stands for no
text is none. -/
def placesAfterAny (path : ByteArray) : List (List GlobPart) → Nat → List Nat
  | [], _ => []
  | branch :: branches, i =>
      if isVoidRow branch then
        placesAfterAny path branches i
      else
        (placesAfterAll path branch [i] ++ placesAfterAny path branches i).eraseDups

/-- The places to which a row of parts leads from several places. -/
def placesAfterAll (path : ByteArray) : List GlobPart → List Nat → List Nat
  | [], places => places
  | part :: parts, places =>
      placesAfterAll path parts (places.flatMap fun i => placesAfter path part i).eraseDups

end

/-- The character that a part stands for, if it stands for one. -/
def literal? : GlobPart → Option Char
  | .char c => some c
  | _ => none

/-- The glob ends with a dot and is found by the name or the extension of a file,
and not by its whole path. -/
def needsName (glob : Glob) : Bool :=
  let isLiteral (part : GlobPart) : Bool := (literal? part).isSome
  glob.getLast?.bind literal? == some '.' &&
    match glob with
    | .leadingDirectories :: parts =>
        !parts.all isLiteral || !parts.any fun part => literal? part == some '/'
    | parts => !parts.all isLiteral

/-- The path leads to a file with a name; two dots are none. -/
def endsInName (path : ByteArray) : Bool :=
  (path.toList.reverse.takeWhile (· != slash)) != "..".toUTF8.toList

/-- The glob covers all of the path. -/
def matchesPath (glob : Glob) (path : ByteArray) : Bool :=
  match glob with
  | [.leadingDirectories] => true
  | glob =>
      (placesAfterAll path glob [0]).contains path.size && (endsInName path || !needsName glob)

end Glob

end EnvAudit
