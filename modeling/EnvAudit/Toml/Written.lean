/-!
# Written forms of TOML strings

A string has a form without escapes where there is one: in double or single
quotes, on one line or on several.  Otherwise it is escaped.
-/

namespace EnvAudit

namespace Toml

/-- The length of the longest run of a character; `current` is that of the run
just before. -/
def longestRun (c : Char) : (current : Nat) → List Char → Nat
  | current, [] => current
  | current, other :: rest =>
      if other = c then
        longestRun c (current + 1) rest
      else
        max current (longestRun c 0 rest)

/-- What decides about the form of a string. -/
structure StringShape where
  singleQuotes : Nat
  doubleQuotes : Nat
  hasBackslash : Bool
  hasNewline : Bool
  /-- The string holds controls other than tabs and line feeds. -/
  hasControl : Bool

/-- A control that no string holds as it is. -/
def isControl (c : Char) : Bool :=
  (c < ' ' && c != '\t' && c != '\n') || c == '\x7f'

def StringShape.of (chars : List Char) : StringShape where
  singleQuotes := longestRun '\'' 0 chars
  doubleQuotes := longestRun '"' 0 chars
  hasBackslash := chars.contains '\\'
  hasNewline := chars.contains '\n'
  hasControl := chars.any isControl

/-- How a string is written. -/
inductive StringForm where
  | basic
  | literal
  | multilineBasic
  | multilineLiteral
  deriving BEq, DecidableEq, Repr

namespace StringShape

/-- The string needs no escapes in double quotes. -/
def isPlainBasic (shape : StringShape) : Bool :=
  !shape.hasControl && !shape.hasBackslash && shape.doubleQuotes = 0 && !shape.hasNewline

def isLiteral (shape : StringShape) : Bool :=
  !shape.hasControl && shape.singleQuotes = 0 && !shape.hasNewline

def isPlainMultilineBasic (shape : StringShape) : Bool :=
  !shape.hasControl && !shape.hasBackslash && shape.doubleQuotes ≤ 2

def isMultilineLiteral (shape : StringShape) : Bool :=
  !shape.hasControl && shape.singleQuotes ≤ 2

/-- The form that a string of the given shape is written in. -/
def form (shape : StringShape) : StringForm :=
  if shape.isPlainBasic then .basic
  else if shape.isLiteral then .literal
  else if shape.isPlainMultilineBasic then .multilineBasic
  else if shape.isMultilineLiteral then .multilineLiteral
  else if shape.hasNewline then .multilineBasic
  else .basic

end StringShape

/-- A code in four uppercase hexadecimal digits. -/
def fourDigits (code : Nat) : List Char :=
  let digits := (Nat.toDigits 16 code).map Char.toUpper
  List.replicate (4 - digits.length) '0' ++ digits

/-- Characters between double quotes.  Of quotes in a row, `allowed` may stand as
they are; `before` counts those just before. -/
def escapeChars (multiline : Bool) (allowed : Nat) : (before : Nat) → List Char → List Char
  | _, [] => []
  | before, c :: rest =>
      if c = '"' then
        if before < allowed then
          '"' :: escapeChars multiline allowed (before + 1) rest
        else
          '\\' :: '"' :: escapeChars multiline allowed 0 rest
      else
        let shown :=
          if c = '\x08' then ['\\', 'b']
          else if c = '\t' then ['\\', 't']
          else if c = '\n' then (if multiline then ['\n'] else ['\\', 'n'])
          else if c = '\x0c' then ['\\', 'f']
          else if c = '\r' then ['\\', 'r']
          else if c = '\\' then ['\\', '\\']
          else if isControl c then '\\' :: 'u' :: fourDigits c.toNat
          else [c]
        shown ++ escapeChars multiline allowed 0 rest

/-- Characters between delimiters; a line feed behind the first of them belongs
to the form where the characters hold one. -/
def delimited (delimiter : List Char) (hasNewline : Bool) (content : List Char) : List Char :=
  delimiter ++ (if hasNewline then ['\n'] else []) ++ content ++ delimiter

/-- A string in the given form. -/
def writeAs (form : StringForm) (hasNewline : Bool) (chars : List Char) : List Char :=
  match form with
  | .basic => delimited ['"'] false (escapeChars false 0 0 chars)
  | .literal => delimited ['\''] false chars
  | .multilineBasic => delimited ['"', '"', '"'] hasNewline (escapeChars true 2 0 chars)
  | .multilineLiteral => delimited ['\'', '\'', '\''] hasNewline chars

/-- The written form of a string. -/
def writeString (chars : List Char) : List Char :=
  let shape := StringShape.of chars
  writeAs shape.form shape.hasNewline chars

/-- A character of a name that needs no quotes. -/
def isBareKey (c : Char) : Bool :=
  c.isAlphanum || c == '-' || c == '_'

/-- The written form of a name. -/
def writeKey (chars : List Char) : List Char :=
  let shape := StringShape.of chars
  if !chars.isEmpty && chars.all isBareKey then chars
  else if !shape.isPlainBasic && shape.isLiteral then writeAs .literal false chars
  else writeAs .basic false chars

end Toml

end EnvAudit
