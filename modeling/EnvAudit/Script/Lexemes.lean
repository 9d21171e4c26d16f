import EnvAudit.Grammar.Shorthand

/-!
# Tokens of scripts

The tokens of a script that are not fixed texts: names, numbers, the parts of
strings and regular expressions, comments, and the names of markup.
-/

namespace EnvAudit.Script

open Grammar Grammar.Pattern

/-- Characters that separate tokens. -/
def isBlank (c : Char) : Bool :=
  let n := c.toNat
  if n < 0x80 then
    n = 0x20 || (0x09 ≤ n && n ≤ 0x0d)
  else
    n = 0xa0 || n = 0x1680 || (0x2000 ≤ n && n ≤ 0x200b) || n = 0x2028 || n = 0x2029 ||
      n = 0x202f || n = 0x205f || n = 0x2060 || n = 0x3000 || n = 0xfeff

/-- Characters that may stand in a name behind its first character. -/
def isNamePart (c : Char) : Bool :=
  let n := c.toNat
  if n < 0x80 then
    c.isAlphanum || c = '_' || c = '$' || n = 0x7f
  else
    !isBlank c

/-- Characters that a name may begin with. -/
def isNameStart (c : Char) : Bool :=
  isNamePart c && !c.isDigit

def hexDigit : Pattern :=
  .one fun c => c.isDigit || ('a' ≤ c && c ≤ 'f') || ('A' ≤ c && c ≤ 'F')

/-- A character of a name, written as such or by its number. -/
def nameCharacter (test : Char → Bool) : Pattern :=
  alts [
    .one test,
    seqs [word "\\u", times hexDigit 4 0],
    seqs [word "\\u\x7b", plus hexDigit, char '\x7d']]

def namePattern : Pattern :=
  .seq (nameCharacter isNameStart) (.star (nameCharacter isNamePart))

def identifier : Lexeme where
  name := "identifier"
  pattern := namePattern

def privateName : Lexeme where
  name := "private_property_identifier"
  pattern := .seq (char '#') namePattern

/-- Digits with single underscores between them. -/
def digitsOf (digit : Pattern) : Pattern :=
  .seq digit (.star (.seq (opt (char '_')) digit))

def decimalDigit : Pattern :=
  range '0' '9'

def decimalDigits : Pattern :=
  digitsOf decimalDigit

def exponent : Pattern :=
  seqs [anyOf "eE", opt (anyOf "-+"), decimalDigits]

/-- A whole number without needless zeros in front; one zero is allowed. -/
def decimalInteger : Pattern :=
  alts [
    char '0',
    seqs [opt (char '0'), range '1' '9', opt (.seq (opt (char '_')) decimalDigits)]]

def decimal : Pattern :=
  alts [
    seqs [decimalInteger, char '.', opt decimalDigits, opt exponent],
    seqs [char '.', decimalDigits, opt exponent],
    seqs [decimalInteger, exponent],
    decimalDigits]

def prefixed (letters : String) (digit : Pattern) : Pattern :=
  seqs [char '0', anyOf letters, digitsOf digit]

def hexadecimal : Pattern := prefixed "xX" hexDigit

def binary : Pattern := prefixed "bB" (range '0' '1')

def octal : Pattern := prefixed "oO" (range '0' '7')

def number : Lexeme where
  name := "number"
  pattern := alts [
    hexadecimal, decimal, binary, octal,
    .seq (alts [hexadecimal, binary, octal, decimalDigits]) (char 'n')]

/-- The first line of a script that names its interpreter. -/
def interpreterLine : Lexeme where
  name := "hash_bang_line"
  pattern := .seq (word "#!") (.star (noneOf "\n"))

def comment : Lexeme where
  name := "comment"
  pattern := alts [
    .seq (word "//") (.star (noneOf "\r\n\u2028\u2029")),
    seqs [
      word "/*", .star (noneOf "*"), plus (char '*'),
      .star (seqs [noneOf "/*", .star (noneOf "*"), plus (char '*')]),
      char '/']]

/-- Plain characters of a string in the given quotes. -/
def stringText (name : String) (quote : String) : Lexeme where
  name := name
  pattern := plus (noneOf (quote ++ "\\\r\n"))
  immediate := true
  precedence := 1

def escapeSequence : Lexeme where
  name := "escape_sequence"
  immediate := true
  pattern := .seq (char '\\') (alts [
    .one fun c => !"xu01234567\x00".contains c,
    times (range '0' '7') 1 2,
    .seq (char 'x') (times hexDigit 2 0),
    .seq (char 'u') (times hexDigit 4 0),
    seqs [word "u\x7b", plus hexDigit, char '\x7d'],
    .seq (anyOf "\r?") (anyOf "\n\u2028\u2029")])

def regexText : Lexeme where
  name := "regex_pattern"
  immediate := true
  precedence := -1
  pattern :=
    let escaped := Pattern.seq (char '\\') (noneOf "\n")
    plus (alts [
      seqs [char '[', .star (.alt escaped (noneOf "]\n\\")), char ']'],
      escaped,
      noneOf "/\\[\n"])

def regexEnd : Lexeme where
  name := "/"
  shown := true
  immediate := true
  precedence := 1
  pattern := char '/'

def regexFlags : Lexeme where
  name := "regex_flags"
  immediate := true
  pattern := plus (range 'a' 'z')

/-- The words `static get` at the end of a line. -/
def staticGet : Lexeme where
  name := "static_get"
  pattern := seqs [
    word "static", plus (.one spaceInRegex), word "get", .star (.one spaceInRegex), char '\n']
where
  spaceInRegex (c : Char) : Bool :=
    c = ' ' || ('\t' ≤ c && c ≤ '\r')

def markupName : Lexeme where
  name := "jsx_identifier"
  pattern := seqs [
    .one fun c => c.isAlpha || c = '_' || c = '$',
    .star (.one fun c => c.isAlphanum || c = '_' || c = '$'),
    char '-',
    .star (.one fun c => c.isAlphanum || c = '_' || c = '$' || c = '-')]

/-- A character of markup by name or number. -/
def markupCharacter : Lexeme where
  name := "html_character_reference"
  pattern := seqs [
    char '&',
    alts [
      .seq (char '#') (alts [
        .seq (anyOf "xX") (times hexDigit 1 5),
        times decimalDigit 1 4]),
      times (.one Char.isAlpha) 1 29],
    char ';']

/-- Plain characters of a markup attribute in the given quotes. -/
def attributeText (name : String) (quote : String) : Lexeme where
  name := name
  immediate := true
  precedence := 1
  pattern := plus (.alt
    (noneOf (quote ++ "&"))
    (.seq (char '&') (.one fun c => !(c.isAlpha || c = '#' || c = '\x00'))))

end EnvAudit.Script
