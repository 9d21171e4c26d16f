import EnvAudit.Toml.Reader

/-!
# Strings of a TOML text

A string is basic, with escapes, or literal, without; and it is on one line or
on several.
-/

namespace EnvAudit

namespace Toml

/-- A blank within a line. -/
def isSpace (c : Char) : Bool :=
  c == ' ' || c == '\t'

def isDigit (c : Char) : Bool :=
  '0' ≤ c && c ≤ '9'

def isHexDigit (c : Char) : Bool :=
  isDigit c || ('A' ≤ c && c ≤ 'F') || ('a' ≤ c && c ≤ 'f')

/-- A character of a comment. -/
def isComment (c : Char) : Bool :=
  c == '\t' || (' ' ≤ c && c ≤ '~') || '\x80' ≤ c

/-- A character of a basic string that stands for itself. -/
def isBasic (c : Char) : Bool :=
  isComment c && c != '"' && c != '\\'

/-- A character of a literal string. -/
def isLiteral (c : Char) : Bool :=
  isComment c && c != '\''

/-- The value of a hexadecimal digit. -/
def hexValue (c : Char) : Nat :=
  if isDigit c then c.toNat - '0'.toNat
  else if c ≤ 'F' then c.toNat - 'A'.toNat + 10
  else c.toNat - 'a'.toNat + 10

/-- The value of digits in the given base. -/
def digitsValue (base : Nat) (digits : List Char) : Nat :=
  digits.foldl (fun value digit => base * value + hexValue digit) 0

/-- Why a number names no character, or is no number at all. -/
def outOfRange : String := "value is out of range"

/-- The character with the given code point. -/
def charOf (code : Nat) : Except String Char :=
  if code.isValidChar then .ok (Char.ofNat code) else .error outOfRange

namespace Reader

/-- The end of a line: a line feed that a carriage return may precede. -/
def newline : Reader Char :=
  (char '\n').orElse do
    let _ ← char '\r'
    char '\n'

/-- Blanks within a line. -/
def spaces : Reader Unit := do
  let _ ← run isSpace

/-- Blanks and ends of lines. -/
def spacesAndNewlines : Reader Unit := do
  let _ ← many ((do let _ ← newline).orElse do let _ ← someRun isSpace)

/-- The character that a number of hexadecimal digits names. -/
def hexEscape (count : Nat) : Reader Char :=
  (do
    let digits ← exactly count isHexDigit
    return digitsValue 16 digits).check charOf

/-- The texts that may stand behind a backslash. -/
def escapeHopes : List String :=
  ["b", "f", "n", "r", "t", "u", "U", "\\", "\""].map fun letter => s!"`{letter}`"

/-- The fault of a character that may not stand behind a backslash; it is shown
behind the character if that is a single byte. -/
def badEscape (c : Char) (rest : List Char) : Reply Char :=
  .stop {
    left := if c.toNat < 0x80 then rest.length else rest.length + 1
    label := some "escape sequence"
    expected := escapeHopes }

/-- What stands behind a backslash. -/
def escapeLetter : Reader Char
  | [] => .retry { left := 0 }
  | 'b' :: rest => .done '\x08' rest
  | 'f' :: rest => .done '\x0c' rest
  | 'n' :: rest => .done '\n' rest
  | 'r' :: rest => .done '\r' rest
  | 't' :: rest => .done '\t' rest
  | '\\' :: rest => .done '\\' rest
  | '"' :: rest => .done '"' rest
  | 'u' :: rest => (hexEscape 4).final.labelled "unicode 4-digit hex code" rest
  | 'U' :: rest => (hexEscape 8).final.labelled "unicode 8-digit hex code" rest
  | c :: rest => badEscape c rest

/-- A backslash with what it escapes. -/
def escaped : Reader (List Char) := do
  let _ ← char '\\'
  return [← escapeLetter]

/-- A string in double quotes. -/
def basicString : Reader (List Char) := do
  let _ ← char '"'
  let parts ← many ((someRun isBasic).orElse escaped)
  let _ ← (char '"').final.labelled "basic string"
  return parts.flatten

/-- A string in single quotes. -/
def literalString : Reader (List Char) :=
  labelled "literal string" do
    let _ ← char '\''
    let content ← run isLiteral
    let _ ← (char '\'').final
    return content

/-- An escaped end of line, with the blanks before it and all blanks and ends of
lines behind it. -/
def escapedNewline : Reader Unit := do
  let _ ← char '\\'
  spaces
  let _ ← newline
  spacesAndNewlines

/-- A part of a basic string on several lines. -/
def basicContent : Reader (List Char) :=
  (someRun isBasic).orElse <|
    (do
      escapedNewline
      let _ ← many escapedNewline
      return []).orElse <|
    escaped.orElse do
      let _ ← newline
      return ['\n']

/-- One or two quotes before something. -/
def quotesBefore (quote : Char) (following : Reader Unit) : Reader (List Char) :=
  (do
    literal [quote, quote]
    ahead following
    return [quote, quote]).orElse do
      literal [quote]
      ahead following
      return [quote]

/-- A string in three double quotes. -/
def multilineBasicString : Reader (List Char) :=
  labelled "multiline basic string" do
    let delimiter := literal ['"', '"', '"']
    delimiter
    let _ ← optional newline
    final do
      let first ← many basicContent
      let others ← many do
        let quotes ← quotesBefore '"' do let _ ← one (· != '"')
        let parts ← many basicContent
        return quotes ++ parts.flatten
      let last ← optional (quotesBefore '"' delimiter)
      delimiter
      return first.flatten ++ others.flatten ++ last.getD []

/-- A character of a literal string on several lines. -/
def literalContent : Reader Char :=
  (one isLiteral).orElse newline

/-- A string in three single quotes. -/
def multilineLiteralString : Reader (List Char) :=
  labelled "multiline literal string" do
    let delimiter := literal ['\'', '\'', '\'']
    delimiter
    let _ ← optional newline
    final do
      let first ← many literalContent
      let others ← many do
        let quotes ← quotesBefore '\'' do let _ ← literalContent
        let parts ← many literalContent
        return quotes ++ parts
      let last ← optional (quotesBefore '\'' delimiter)
      delimiter
      return first ++ others.flatten ++ last.getD []

/-- A string of any kind. -/
def string : Reader (List Char) :=
  multilineBasicString.orElse <|
    basicString.orElse <|
    multilineLiteralString.orElse literalString

end Reader

end Toml

end EnvAudit
