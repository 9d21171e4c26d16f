import EnvAudit.Files.Failure
import EnvAudit.Text.Blank
import EnvAudit.Text.Quoted
import EnvAudit.Text.Utf8

/-!
# Lines of environment files

An environment file has one assignment to a line.  A line goes on behind a line
feed that stands between quotes, and it ends where a comment begins.
-/

namespace EnvAudit

namespace EnvFile

/-- Why an environment file cannot be loaded. -/
inductive Fault where
  | unreadable (failure : Failure)
  /-- The text has no meaning from the index on. -/
  | malformed (text : String) (index : Nat)
  /-- The system takes no such value for the variable. -/
  | unsettable (name value : String)
  deriving BEq, DecidableEq, Repr, Inhabited

namespace Fault

def message : Fault → String
  | unreadable failure => failure.message
  | malformed text index => s!"Error parsing line: '{text}', error at line index: {index}"
  | unsettable name value =>
      s!"failed to set environment variable `{Text.quoted name}` to `{Text.quoted value}`: " ++
        "file name contained an unexpected NUL byte"

/-- The messages of a fault and of what caused it, the outermost first. -/
def chain : Fault → List String
  | unreadable failure => [failure.message, failure.message]
  | fault => [fault.message]

end Fault

/-- The bytes up to and with each line feed; what is behind the last one comes
last, unless it is nothing. -/
def splitLines : List UInt8 → List (List UInt8)
  | [] => []
  | byte :: bytes =>
      if byte = 10 then
        [byte] :: splitLines bytes
      else
        match splitLines bytes with
        | [] => [[byte]]
        | line :: lines => (byte :: line) :: lines

/-- What the characters read so far leave open. -/
inductive Openness where
  /-- Nothing is open, and the line may end. -/
  | closed
  /-- The last character is a blank. -/
  | blank
  /-- The last character is a backslash. -/
  | escape
  | doubleQuote
  | doubleQuoteEscape
  | singleQuote
  | singleQuoteEscape
  deriving BEq, DecidableEq, Repr, Inhabited

namespace Openness

/-- What is open behind a character where no quote is. -/
def ofChar (c : Char) : Openness :=
  if c = '\\' then .escape
  else if c = '"' then .doubleQuote
  else if c = '\'' then .singleQuote
  else .closed

/-- What is open behind the next character, unless it begins a comment. -/
def next? : Openness → Char → Option Openness
  | closed, c =>
      if Text.isBlank c && c != '\n' && c != '\r' then some .blank else some (ofChar c)
  | blank, c => if c = '#' then none else some (ofChar c)
  | escape, _ => some .closed
  | doubleQuote, c =>
      some (if c = '\\' then .doubleQuoteEscape else if c = '"' then .closed else .doubleQuote)
  | doubleQuoteEscape, _ => some .doubleQuote
  | singleQuote, c =>
      some (if c = '\\' then .singleQuoteEscape else if c = '\'' then .closed else .singleQuote)
  | singleQuoteEscape, _ => some .singleQuote

/-- The characters before a comment, and what is open behind all characters if
there is no comment. -/
def run : Openness → List Char → List Char × Option Openness
  | openness, [] => ([], some openness)
  | openness, c :: chars =>
      match openness.next? c with
      | none => ([], none)
      | some following =>
          let (kept, last) := run following chars
          (c :: kept, last)

end Openness

/-- Characters without the line end behind them. -/
def withoutLineEnd (chars : List Char) : List Char :=
  match chars.reverse with
  | '\n' :: '\r' :: others => others.reverse
  | '\n' :: others => others.reverse
  | _ => chars

/-- The lines that begin with the characters in `before` and what they leave
open, and go on with the given pieces.  Lines that hold only a comment are
empty. -/
def joinLines (openness : Openness) (before : List Char) :
    List (List UInt8) → List (Except Fault (List Char))
  | [] =>
      if openness = .closed then
        []
      else
        [.error (.malformed (.ofList before) (Text.byteCount before))]
  | piece :: pieces =>
      match String.fromUTF8? ⟨piece.toArray⟩ with
      | none => [.error (.unreadable .notText)]
      | some text =>
          let line := before ++ text.toList
          if (Text.trimStartChars line).head? = some '#' then
            .ok [] :: joinLines .closed [] pieces
          else
            match openness.run text.toList with
            | (kept, none) => .ok (before ++ kept) :: joinLines .closed [] pieces
            | (_, some .closed) => .ok (withoutLineEnd line) :: joinLines .closed [] pieces
            | (_, some following) => joinLines following line pieces

/-- The byte order mark. -/
def byteOrderMark : List UInt8 := [0xEF, 0xBB, 0xBF]

/-- The lines of an environment file, up to the first that cannot be read. -/
def lines (content : ByteArray) : List (Except Fault (List Char)) :=
  let bytes := content.toList
  let bytes := if byteOrderMark.isPrefixOf bytes then bytes.drop 3 else bytes
  joinLines .closed [] (splitLines bytes)

end EnvFile

end EnvAudit
