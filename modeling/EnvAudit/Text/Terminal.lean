/-!
# Texts for terminals

A terminal takes some characters of a text for commands.  `Terminal.shown` is
what is left of a text without them.
-/

namespace EnvAudit

namespace Text

namespace Terminal

/-- What the next character of a text is. -/
inductive Mode where
  | plain
  /-- The kind of a command. -/
  | command
  /-- The end of a command of few characters. -/
  | shortCommand
  /-- A parameter of a command, or the letter at its end. -/
  | parameters
  /-- A part of a title, which a bell ends. -/
  | title
  /-- Data that go on up to the next command. -/
  | data
  deriving BEq, DecidableEq, Repr, Inhabited

/-- A control that moves on to another place. -/
def isLayout (c : Char) : Bool :=
  c == '\t' || c == '\n' || c == '\x0c' || c == '\r'

/-- A control of any kind. -/
def isControl (c : Char) : Bool :=
  c < ' ' || c == '\x7f'

/-- What follows the character that tells the kind of a command. -/
def ofKind (c : Char) : Mode :=
  if c ≤ '/' then .shortCommand
  else if c = '[' then .parameters
  else if c = ']' then .title
  else if c = 'P' || c = 'X' || c = '^' || c = '_' then .data
  else .plain

/-- What follows a character of a command that is no control. -/
def afterPart : Mode → Char → Mode
  | .command, c => ofKind c
  | .shortCommand, c => if c ≤ '/' then .shortCommand else .plain
  | .parameters, c => if c ≤ '?' then .parameters else .plain
  | mode, _ => mode

/-- What is left of a character, and what the next one is.  A command cannot hold
a character beyond ASCII: it ends there, and the character is broken. -/
def step (mode : Mode) (c : Char) : List Char × Mode :=
  if c = '\x1b' then ([], .command)
  else if c = '\x18' || c = '\x1a' then ([], .plain)
  else if mode = .plain then (if isLayout c || !isControl c then [c] else [], .plain)
  else if 1 < c.utf8Size then (List.replicate (c.utf8Size - 1) '\ufffd', .plain)
  else if mode = .title then ([], if c = '\x07' then .plain else .title)
  else if mode = .data then ([], .data)
  else if isLayout c then ([c], .plain)
  else if isControl c then ([], mode)
  else ([], afterPart mode c)

/-- What is left of characters. -/
def shownFrom : Mode → List Char → List Char
  | _, [] => []
  | mode, c :: chars =>
      let (left, mode) := step mode c
      left ++ shownFrom mode chars

/-- The text without what a terminal takes for commands. -/
def shown (text : String) : String :=
  .ofList (shownFrom .plain text.toList)

end Terminal

end Text

end EnvAudit
