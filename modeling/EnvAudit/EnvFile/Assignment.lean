import EnvAudit.EnvFile.Lines
import EnvAudit.Environment
import EnvAudit.Files.Tree
import EnvAudit.Text.Alphanumeric

/-!
# Assignments of environment files

A line assigns a value to a name.  The value may be quoted, may hold escapes,
and may refer to variables, which are replaced by their values.
-/

namespace EnvAudit

namespace EnvFile

/-- What is left of a line, with the number of bytes before it. -/
structure Rest where
  position : Nat
  chars : List Char
  deriving Repr

namespace Rest

/-- What is left behind the given number of characters. -/
def drop (rest : Rest) (count : Nat) : Rest :=
  ⟨rest.position + Text.byteCount (rest.chars.take count), rest.chars.drop count⟩

def skipBlanks (rest : Rest) : Rest :=
  rest.drop (rest.chars.takeWhile Text.isBlank).length

def isNameStart (c : Char) : Bool :=
  c.isAlpha || c == '_'

def isNamePart (c : Char) : Bool :=
  c.isAlphanum || c == '_' || c == '.'

/-- A name and what is behind it, or else the position. -/
def readName (rest : Rest) : Except Nat (List Char × Rest) :=
  if rest.chars.head?.any isNameStart then
    let name := rest.chars.takeWhile isNamePart
    .ok (name, rest.drop name.length)
  else
    .error rest.position

/-- What is behind an equals sign, or else the position. -/
def readEquals (rest : Rest) : Except Nat Rest :=
  if rest.chars.head? = some '=' then .ok (rest.drop 1) else .error rest.position

/-- The word that may stand before a name. -/
def exportWord : List Char := "export".toList

/-- The name that the line assigns to and what is behind the equals sign, or
the position that makes no sense. -/
def readTarget (rest : Rest) : Except Nat (List Char × Rest) := do
  let (name, rest) ← rest.readName
  let rest := rest.skipBlanks
  match rest.readEquals with
  | .ok rest => return (name, rest)
  | .error position =>
      if name = exportWord then
        let (name, rest) ← rest.readName
        let rest ← rest.skipBlanks.readEquals
        return (name, rest)
      else
        throw position

end Rest

/-- What the next character of a value is. -/
inductive Mode where
  /-- A part of the value, unless it is special. -/
  | plain
  /-- The character that a backslash stands before. -/
  | escape
  /-- A character between single quotes. -/
  | quoted
  /-- A part of the name behind a dollar sign, or the character behind it. -/
  | name (letters : List Char)
  /-- A part of the name between braces, or the brace behind it. -/
  | bracedName (letters : List Char)
  /-- A blank behind the value, or a number sign. -/
  | behind
  | comment
  deriving BEq, DecidableEq, Repr, Inhabited

/-- A value of which some characters are read. -/
structure Reading where
  mode : Mode
  /-- A double quote is open. -/
  inDoubleQuotes : Bool
  output : List Char
  deriving Repr

namespace Reading

def start : Reading := ⟨.plain, false, []⟩

def push (reading : Reading) (chars : List Char) : Reading :=
  { reading with output := reading.output ++ chars }

/-- What stands for a name: the value of the variable, or nothing.  The variables
are searched in the form `name=value`, so a name may go on into the value up to
another equals sign, and then the rest of the value stands for it. -/
def valueOf (environment : Environment) (letters : List Char) : List Char :=
  let value := ((environment.get? (.ofList (letters.takeWhile (· != '=')))).getD "").toList
  match letters.dropWhile (· != '=') with
  | [] => value
  | _ :: beginning =>
      if (beginning ++ ['=']).isPrefixOf value then value.drop (beginning.length + 1) else []

/-- The character that a backslash and the given character stand for. -/
def escaped? (c : Char) : Option Char :=
  if ['\\', '\'', '"', '$', ' '].contains c then some c
  else if c = 'n' then some '\n'
  else none

/-- Reads a character outside of single quotes and names. -/
def stepPlain (reading : Reading) (c : Char) : Reading :=
  if c = '$' then { reading with mode := .name [] }
  else if c = '\\' then { reading with mode := .escape }
  else if c = '"' then { reading with inDoubleQuotes := !reading.inDoubleQuotes }
  else if reading.inDoubleQuotes then reading.push [c]
  else if c = '\'' then { reading with mode := .quoted }
  else if c = ' ' || c = '\t' then { reading with mode := .behind }
  else reading.push [c]

/-- Reads a character behind the letters of a name without braces. -/
def stepName (environment : Environment) (reading : Reading) (letters : List Char) (c : Char) :
    Reading :=
  if Text.isAlphanumeric c then
    { reading with mode := .name (letters ++ [c]) }
  else if c = '\x7b' && letters.isEmpty then
    { reading with mode := .bracedName [] }
  else
    let reading := reading.push (valueOf environment letters)
    if c = '$' then
      { reading with mode := .name [] }
    else
      { reading.push [c] with mode := .plain }

/-- Reads a character between braces. -/
def stepBracedName (environment : Environment) (reading : Reading) (letters : List Char)
    (c : Char) : Reading :=
  if c = '\x7d' then
    { reading.push (valueOf environment letters) with mode := .plain }
  else
    { reading with mode := .bracedName (letters ++ [c]) }

/-- Reads a character, unless it makes no sense. -/
def step? (environment : Environment) (reading : Reading) (c : Char) : Option Reading :=
  match reading.mode with
  | .plain => some (reading.stepPlain c)
  | .escape => (escaped? c).map fun meant => { reading.push [meant] with mode := .plain }
  | .quoted =>
      some (if c = '\'' then { reading with mode := .plain } else reading.push [c])
  | .name letters => some (reading.stepName environment letters c)
  | .bracedName letters => some (reading.stepBracedName environment letters c)
  | .behind =>
      if c = ' ' || c = '\t' then some reading
      else if c = '#' then some { reading with mode := .comment }
      else none
  | .comment => some reading

/-- Reads characters that begin at an index, or gives the index of the first
one that makes no sense. -/
def run (environment : Environment) : Reading → Nat → List Char → Except Nat Reading
  | reading, _, [] => .ok reading
  | reading, index, c :: chars =>
      match reading.step? environment c with
      | none => .error index
      | some reading => run environment reading (index + 1) chars

/-- The value that has been read, if it is complete. -/
def finish? (environment : Environment) (reading : Reading) : Option (List Char) :=
  match reading.mode with
  | .quoted | .bracedName _ => none
  | .name letters =>
      if reading.inDoubleQuotes then
        none
      else
        some (reading.output ++ valueOf environment letters)
  | _ => if reading.inDoubleQuotes then none else some reading.output

end Reading

/-- The value that a text stands for. -/
def readValue (environment : Environment) (chars : List Char) : Except Fault (List Char) :=
  match Reading.start.run environment 0 chars with
  | .error index => .error (.malformed (.ofList chars) index)
  | .ok reading =>
      match reading.finish? environment with
      | some value => .ok value
      | none => .error (.malformed (.ofList chars) (Text.byteCount chars - 1))

/-- Nothing is left but perhaps a comment. -/
def isVoid (chars : List Char) : Bool :=
  chars.isEmpty || chars.head? == some '#'

/-- The assignment in a line, if there is one. -/
def readLine (environment : Environment) (line : List Char) :
    Except Fault (Option (String × String)) :=
  let rest := (Rest.mk 0 (Text.trimEndChars line)).skipBlanks
  if isVoid rest.chars then
    .ok none
  else
    match rest.readTarget with
    | .error position => .error (.malformed (.ofList line) position)
    | .ok (name, rest) =>
        let rest := rest.skipBlanks
        if isVoid rest.chars then
          .ok (some (.ofList name, ""))
        else
          (readValue environment rest.chars).map fun value => some (.ofList name, .ofList value)

/-- The system takes the text for the value of a variable. -/
def isSettable (value : String) : Bool :=
  !value.toList.contains '\x00'

/-- The environment after an assignment.  A variable that has a value keeps it, whatever is
assigned. -/
def assign (environment : Environment) (name value : String) : Except Fault Environment :=
  match environment.get? name with
  | some _ => .ok environment
  | none =>
      if isSettable value then
        .ok (environment.insert name value)
      else
        .error (.unsettable name value)

/-- The environment after the assignments in lines, which are read one by one.  The value of
each may refer to those before it. -/
def assignLines (environment : Environment) :
    List (Except Fault (List Char)) → Except Fault Environment
  | [] => .ok environment
  | .error fault :: _ => .error fault
  | .ok line :: lines => do
      match ← readLine environment line with
      | none => assignLines environment lines
      | some (name, value) => assignLines (← assign environment name value) lines

/-- The environment after the assignments in a file have filled it. -/
def load (files : FileSystem) (path : String) (environment : Environment) :
    Except Fault Environment := do
  let content ← (files.read path).mapError .unreadable
  assignLines environment (lines content)

end EnvFile

end EnvAudit
