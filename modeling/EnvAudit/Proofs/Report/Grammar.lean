import EnvAudit.Report.Json
import EnvAudit.Toml.Text
import Mathlib.Data.List.Forall2

/-!
# The grammar of JSON

Which texts stand for a value: with any blanks between the parts, and with any of the ways to
write a character of a string.  The grammar knows nothing of how this library writes values.
-/

namespace EnvAudit

namespace Json

/-- A character that may stand between the parts of a text. -/
def isBlank (c : Char) : Bool :=
  c == ' ' || c == '\t' || c == '\n' || c == '\r'

def Blanks (text : List Char) : Prop :=
  ∀ c ∈ text, isBlank c = true

/-- The letters that may stand behind a backslash, with the characters that they mean. -/
def escapes : List (Char × Char) := [
  ('"', '"'), ('\\', '\\'), ('/', '/'), ('b', '\x08'), ('f', '\x0c'), ('n', '\n'), ('r', '\r'),
  ('t', '\t')]

/-- Four hexadecimal digits and the number that they stand for. -/
structure IsCode (digits : List Char) (code : Nat) : Prop where
  length : digits.length = 4
  hexadecimal : ∀ c ∈ digits, Toml.isHexDigit c = true
  value : Toml.digitsValue 16 digits = code

/-- The first code of a pair that together stands for a character. -/
def IsHighCode (code : Nat) : Prop :=
  0xD800 ≤ code ∧ code < 0xDC00

/-- The second code of a pair. -/
def IsLowCode (code : Nat) : Prop :=
  0xDC00 ≤ code ∧ code < 0xE000

/-- What a character may look like in a string. -/
inductive CharSpelling : Char → List Char → Prop
  | plain {c : Char} (visible : ' ' ≤ c) (notQuote : c ≠ '"') (notBackslash : c ≠ '\\') :
      CharSpelling c [c]
  | escaped {letter c : Char} (known : (letter, c) ∈ escapes) : CharSpelling c ['\\', letter]
  | coded {c : Char} {digits : List Char} (isCode : IsCode digits c.toNat) :
      CharSpelling c ('\\' :: 'u' :: digits)
  | paired {c : Char} {high low : List Char} {highCode lowCode : Nat}
      (isHigh : IsCode high highCode) (isLow : IsCode low lowCode)
      (highBounds : IsHighCode highCode) (lowBounds : IsLowCode lowCode)
      (value : c.toNat = 0x10000 + 0x400 * (highCode - 0xD800) + (lowCode - 0xDC00)) :
      CharSpelling c ('\\' :: 'u' :: high ++ '\\' :: 'u' :: low)

/-- What a string looks like. -/
inductive TextSpelling : String → List Char → Prop
  | quoted {text : String} {parts : List (List Char)}
      (spelled : List.Forall₂ CharSpelling text.toList parts) :
      TextSpelling text ('"' :: parts.flatten ++ ['"'])

/-- What a natural number looks like: no zero stands in front of other digits. -/
structure NumberSpelling (value : Nat) (digits : List Char) : Prop where
  nonempty : digits ≠ []
  decimal : ∀ c ∈ digits, c.isDigit = true
  shortest : digits.head? = some '0' → digits = ['0']
  value : Nat.ofDigitChars 10 digits 0 = value

mutual

/-- What a value looks like. -/
inductive Spelling : Json → List Char → Prop
  | isTrue : Spelling (.boolean true) ['t', 'r', 'u', 'e']
  | isFalse : Spelling (.boolean false) ['f', 'a', 'l', 's', 'e']
  | natural {value : Nat} {digits : List Char} (spelled : NumberSpelling value digits) :
      Spelling (.natural value) digits
  | text {value : String} {text : List Char} (spelled : TextSpelling value text) :
      Spelling (.text value) text
  | emptyList {gap : List Char} (blanks : Blanks gap) : Spelling (.list []) ('[' :: gap ++ [']'])
  | list {items : List Json} {inner : List Char} (spelled : ItemsSpelling items inner) :
      Spelling (.list items) ('[' :: inner ++ [']'])
  | emptyObject {gap : List Char} (blanks : Blanks gap) :
      Spelling (.object []) ('\x7b' :: gap ++ ['\x7d'])
  | object {fields : List (String × Json)} {inner : List Char}
      (spelled : FieldsSpelling fields inner) :
      Spelling (.object fields) ('\x7b' :: inner ++ ['\x7d'])

/-- What a value among blanks looks like.  A document is such a value. -/
inductive Document : Json → List Char → Prop
  | among {value : Json} {before text behind : List Char} (blanksBefore : Blanks before)
      (spelled : Spelling value text) (blanksBehind : Blanks behind) :
      Document value (before ++ text ++ behind)

/-- What the items of a list look like, of which there is at least one. -/
inductive ItemsSpelling : List Json → List Char → Prop
  | last {item : Json} {text : List Char} (spelled : Document item text) :
      ItemsSpelling [item] text
  | cons {item : Json} {items : List Json} {text others : List Char}
      (spelled : Document item text) (further : ItemsSpelling items others) :
      ItemsSpelling (item :: items) (text ++ ',' :: others)

/-- What a field of an object looks like. -/
inductive FieldSpelling : String × Json → List Char → Prop
  | colon {name : String} {value : Json} {before label behind text : List Char}
      (blanksBefore : Blanks before) (named : TextSpelling name label)
      (blanksBehind : Blanks behind) (spelled : Document value text) :
      FieldSpelling (name, value) (before ++ label ++ behind ++ ':' :: text)

/-- What the fields of an object look like, of which there is at least one. -/
inductive FieldsSpelling : List (String × Json) → List Char → Prop
  | last {field : String × Json} {text : List Char} (spelled : FieldSpelling field text) :
      FieldsSpelling [field] text
  | cons {field : String × Json} {fields : List (String × Json)} {text others : List Char}
      (spelled : FieldSpelling field text) (further : FieldsSpelling fields others) :
      FieldsSpelling (field :: fields) (text ++ ',' :: others)

end

end Json

end EnvAudit
