/-!
# Blank characters

The blank characters are those with the property White_Space.  `trim` takes
the blanks off both ends of a text.
-/

namespace EnvAudit

namespace Text

/-- A character that leaves no mark. -/
def isBlank (c : Char) : Bool :=
  ('\t' ≤ c && c ≤ '\r') || c == ' ' || c == '\u0085' || c == '\u00a0' || c == '\u1680' ||
    ('\u2000' ≤ c && c ≤ '\u200a') || c == '\u2028' || c == '\u2029' || c == '\u202f' ||
    c == '\u205f' || c == '\u3000'

/-- Characters without the blanks before the first other one. -/
def trimStartChars (chars : List Char) : List Char :=
  chars.dropWhile isBlank

/-- Characters without the blanks behind the last other one. -/
def trimEndChars (chars : List Char) : List Char :=
  (chars.reverse.dropWhile isBlank).reverse

/-- Characters without the blanks at both ends. -/
def trimChars (chars : List Char) : List Char :=
  trimEndChars (trimStartChars chars)

def trim (text : String) : String :=
  .ofList (trimChars text.toList)

end Text

end EnvAudit
