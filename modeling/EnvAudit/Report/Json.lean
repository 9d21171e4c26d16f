import EnvAudit.Text.Quoted

/-!
# JSON

Values of the JSON data format and their text, with one item on each line and
two blanks for each level.
-/

namespace EnvAudit

/-- A value of the data format, without fractions and without null. -/
inductive Json where
  | boolean (value : Bool)
  | natural (value : Nat)
  | text (value : String)
  | list (items : List Json)
  | object (fields : List (String × Json))
  deriving Inhabited

namespace Json

/-- A number in four hexadecimal digits. -/
def fourHexDigits (value : Nat) : List Char :=
  let digits := Text.hexDigits value
  List.replicate (4 - digits.length) '0' ++ digits

/-- A character within quotes. -/
def encodeChar (c : Char) : List Char :=
  if c = '"' || c = '\\' then ['\\', c]
  else if c = '\x08' then ['\\', 'b']
  else if c = '\t' then ['\\', 't']
  else if c = '\n' then ['\\', 'n']
  else if c = '\x0c' then ['\\', 'f']
  else if c = '\r' then ['\\', 'r']
  else if c < ' ' then ['\\', 'u'] ++ fourHexDigits c.toNat
  else [c]

/-- A text within quotes. -/
def encodeText (text : String) : List Char :=
  '"' :: text.toList.flatMap encodeChar ++ ['"']

/-- The beginning of a line at the given level. -/
def newLine (level : Nat) : List Char :=
  '\n' :: List.replicate (2 * level) ' '

mutual

/-- The text of a value at the given level. -/
def write (level : Nat) : Json → List Char
  | .boolean value => (if value then "true" else "false").toList
  | .natural value => Nat.toDigits 10 value
  | .text value => encodeText value
  | .list [] => ['[', ']']
  | .list (item :: items) =>
      '[' :: newLine (level + 1) ++ write (level + 1) item ++ writeItems (level + 1) items ++
        newLine level ++ [']']
  | .object [] => ['\x7b', '\x7d']
  | .object ((name, value) :: fields) =>
      '\x7b' :: newLine (level + 1) ++ encodeText name ++ [':', ' '] ++ write (level + 1) value ++
        writeFields (level + 1) fields ++ newLine level ++ ['\x7d']

/-- The text of the items after the first. -/
def writeItems (level : Nat) : List Json → List Char
  | [] => []
  | item :: items => ',' :: newLine level ++ write level item ++ writeItems level items

/-- The text of the fields after the first. -/
def writeFields (level : Nat) : List (String × Json) → List Char
  | [] => []
  | (name, value) :: fields =>
      ',' :: newLine level ++ encodeText name ++ [':', ' '] ++ write level value ++
        writeFields level fields

end

/-- The text of a value. -/
def pretty (value : Json) : String :=
  .ofList (write 0 value)

/-- What has been written behind an opening: a part that is begun, or else the text of that part
and what is begun behind it. -/
def begunBehind (opening : List Char) (part : Option (List Char)) (text : List Char)
    (further : Option (List Char)) : Option (List Char) :=
  match part with
  | some begun => some (opening ++ begun)
  | none => further.map fun begun => opening ++ text ++ begun

section Begun

variable (stops : String → Json → Bool)

mutual

/-- What has been written of a value when the writing stops at a field, if it does.  Nothing is
written of the value of that field. -/
def begun? (level : Nat) : Json → Option (List Char)
  | .boolean _ | .natural _ | .text _ | .list [] | .object [] => none
  | .list (item :: items) =>
      begunBehind ('[' :: newLine (level + 1)) (begun? (level + 1) item) (write (level + 1) item)
        (begunItems? (level + 1) items)
  | .object ((name, value) :: fields) =>
      begunBehind ('\x7b' :: newLine (level + 1) ++ encodeText name ++ [':', ' '])
        (if stops name value then some [] else begun? (level + 1) value)
        (write (level + 1) value) (begunFields? (level + 1) fields)

/-- What has been written of the items after the first. -/
def begunItems? (level : Nat) : List Json → Option (List Char)
  | [] => none
  | item :: items =>
      begunBehind (',' :: newLine level) (begun? level item) (write level item)
        (begunItems? level items)

/-- What has been written of the fields after the first. -/
def begunFields? (level : Nat) : List (String × Json) → Option (List Char)
  | [] => none
  | (name, value) :: fields =>
      begunBehind (',' :: newLine level ++ encodeText name ++ [':', ' '])
        (if stops name value then some [] else begun? level value) (write level value)
        (begunFields? level fields)

end

end Begun

end Json

end EnvAudit
