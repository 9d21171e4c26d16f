import EnvAudit.Text.Unprintable

/-!
# Quoted texts

A text in messages stands between double quotes, with the quotes, backslashes
and unseen characters in it escaped.
-/

namespace EnvAudit

namespace Text

/-- A number in lowercase hexadecimal digits. -/
def hexDigits (value : Nat) : List Char :=
  Nat.toDigits 16 value

/-- A character as it stands between quotes. -/
def quotedChar (c : Char) : List Char :=
  if c = '\x00' then
    ['\\', '0']
  else if c = '\t' then
    ['\\', 't']
  else if c = '\r' then
    ['\\', 'r']
  else if c = '\n' then
    ['\\', 'n']
  else if c = '"' || c = '\\' then
    ['\\', c]
  else if isUnprintable c then
    ['\\', 'u', '\x7b'] ++ hexDigits c.toNat ++ ['\x7d']
  else
    [c]

/-- A text between double quotes. -/
def quoted (text : String) : String :=
  .ofList ('"' :: text.toList.flatMap quotedChar ++ ['"'])

end Text

end EnvAudit
