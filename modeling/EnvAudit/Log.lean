import EnvAudit.Text.Alphanumeric
import EnvAudit.Text.Blank
import EnvAudit.Text.Parts

/-!
# Logs

Records of what happens while the program runs.  Directives say down to which
level records are written, for all of the program or for parts of it.
-/

namespace EnvAudit

namespace Log

/-- How important a record is. -/
inductive Level where
  | error
  | warn
  | info
  | debug
  | trace
  deriving BEq, DecidableEq, Repr, Inhabited

namespace Level

/-- The place of a level, from the most important one on. -/
def rank : Level → Nat
  | error => 1
  | warn => 2
  | info => 3
  | debug => 4
  | trace => 5

def name : Level → String
  | error => "ERROR"
  | warn => "WARN"
  | info => "INFO"
  | debug => "DEBUG"
  | trace => "TRACE"

def all : List Level := [error, warn, info, debug, trace]

end Level

/-- Something that happened. -/
structure Record where
  level : Level
  /-- The part of the program that tells of it. -/
  part : String
  message : String
  /-- The values that go with the message, each with its name. -/
  fields : List (String × String)
  deriving BEq, DecidableEq, Repr, Inhabited

/-- The record as it is written. -/
def Record.text (record : Record) : String :=
  " ".intercalate (record.message :: record.fields.map fun (name, value) => s!"{name}={value}")

/-- The lowest level that is written; there may be none. -/
abbrev Limit := Option Level

/-- A record of the level is written under a limit. -/
def Level.isWithin (level : Level) (limit : Limit) : Bool :=
  limit.any fun lowest => level.rank ≤ lowest.rank

/-- A number in decimal digits, perhaps behind a plus sign. -/
def number? (text : String) : Option Nat :=
  let digits := match text.toList with
    | '+' :: digits => digits
    | digits => digits
  if !digits.isEmpty && digits.all Char.isDigit then
    some (digits.foldl (fun value digit => 10 * value + (digit.toNat - '0'.toNat)) 0)
  else
    none

/-- The limit with the given name or number. -/
def limitOfName? (name : String) : Option Limit :=
  let upper := name.toUpper
  if upper = "OFF" || number? name = some 0 then
    some none
  else
    (Level.all.find? fun level => upper = level.name || number? name = some level.rank).map some

/-- What limits the records of some parts of the program. -/
structure Directive where
  /-- What the name of the part begins with. -/
  target : String := ""
  /-- The name of a field that the records must have. -/
  field : Option String := none
  limit : Limit := some .trace
  /-- The directive is about stretches of the course or about values of fields,
  and so about no record of this program. -/
  isIdle : Bool := false
  deriving BEq, DecidableEq, Repr, Inhabited

namespace Directive

/-- What the next character of a directive belongs to.  Numbers tell where a
piece of the text began. -/
inductive Piece where
  | start
  | targetOrLimit
  | span (start : Nat)
  | field (start : Nat)
  | behindFields
  | behindSpan
  | limit (start : Nat)
  deriving BEq, DecidableEq, Repr, Inhabited

/-- A directive of which some characters are read. -/
structure Reading where
  piece : Piece
  directive : Directive
  deriving Repr, Inhabited

namespace Reading

/-- A directive may begin with the character. -/
def mayStart (c : Char) : Bool :=
  c == '-' || c == ':' || c == '_' || Text.isAlphanumeric c

/-- Takes in the text of a field, which may ask for a value. -/
def addField? (directive : Directive) (field : String) : Option Directive :=
  if field = "" then none
  else if field.toList.contains '=' then some { directive with isIdle := true }
  else some { directive with field := some field }

/-- Reads the character at an index, unless it makes no sense.  `text` gives the
characters between two indices. -/
def step? (text : Nat → Nat → String) (reading : Reading) (index : Nat) (c : Char) :
    Option Reading :=
  let directive := reading.directive
  match reading.piece with
  | .start =>
      if c = '[' then some ⟨.span (index + 1), directive⟩
      else if mayStart c then some ⟨.targetOrLimit, directive⟩
      else none
  | .targetOrLimit =>
      let named := { directive with target := text 0 index }
      if c = '=' then some ⟨.limit (index + 1), named⟩
      else if c = '[' then some ⟨.span (index + 1), named⟩
      else some reading
  | .span start =>
      if c = ']' then some ⟨.behindSpan, { directive with isIdle := true }⟩
      else if c = '\x7b' then
        some ⟨.field (index + 1), { directive with isIdle := text start index ≠ "" }⟩
      else some reading
  | .field start =>
      if c = '\x7d' then (addField? directive (text start index)).map (⟨.behindFields, ·⟩)
      else some reading
  | .behindFields => if c = ']' then some ⟨.behindSpan, directive⟩ else none
  | .behindSpan => if c = '=' then some ⟨.limit (index + 1), directive⟩ else none
  | .limit _ => some reading

/-- Reads characters from an index on. -/
def run? (text : Nat → Nat → String) : Reading → Nat → List Char → Option Reading
  | reading, _, [] => some reading
  | reading, index, c :: chars => do
      run? text (← reading.step? text index c) (index + 1) chars

/-- The directive that has been read, if it is complete.  `text` gives the
characters from an index on. -/
def finish? (text : Nat → String) (reading : Reading) : Option Directive :=
  let directive := reading.directive
  match reading.piece with
  | .targetOrLimit =>
      match limitOfName? (text 0) with
      | some limit => some { directive with limit }
      | none => some { directive with target := text 0 }
  | .limit start =>
      if text start = "" then some directive
      else (limitOfName? (text start)).map fun limit => { directive with limit }
  | .behindSpan => some directive
  | _ => none

end Reading

/-- The directive that a text spells out: a limit, or a target, perhaps with a
span or a field in brackets, and perhaps with a limit behind an equals sign.
Blanks at the ends are passed over, but the places of pieces count them. -/
def ofText? (text : String) : Option Directive :=
  let chars := text.toList
  let between (start stop : Nat) : String := .ofList ((chars.take stop).drop start)
  let behind (start : Nat) : String := .ofList (chars.drop start)
  ((Reading.mk .start {}).run? between 0 (Text.trimChars chars)).bind (·.finish? behind)

/-- The directives in a text that separates them by commas. -/
def listOfText? (text : String) : Option (List Directive) :=
  ((Text.split ',' text).filter fun part => part ≠ "").mapM ofText?

/-- The directive is about the record. -/
def isAbout (directive : Directive) (record : Record) : Bool :=
  !directive.isIdle && directive.target.toList.isPrefixOf record.part.toList &&
    directive.field.all fun field =>
      field = "message" || record.fields.any fun (name, _) => name = field

/-- The first directive says as much about its records as the second, or more:
it has the longer target, or a field. -/
def isAsClose (first second : Directive) : Bool :=
  if first.target.utf8ByteSize = second.target.utf8ByteSize then
    match first.field, second.field with
    | _, none => true
    | none, some _ => false
    | some former, some latter => latter ≤ former
  else
    second.target.utf8ByteSize < first.target.utf8ByteSize

/-- The limit for a record: that of the closest directive about it, the last
among equals.  Without any directive only errors are written. -/
def limitOf (directives : List Directive) (record : Record) : Limit :=
  if directives = [] then
    some .error
  else
    ((directives.filter (·.isAbout record)).foldl (fun best directive =>
      match best with
      | some kept => if directive.isAsClose kept then some directive else some kept
      | none => some directive) none).bind Directive.limit

/-- The record is written under the directives. -/
def allow (directives : List Directive) (record : Record) : Bool :=
  record.level.isWithin (limitOf directives record)

end Directive

end Log

end EnvAudit
