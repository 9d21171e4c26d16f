/-!
# Readers

A reader takes something from the front of a text.  Where it cannot, it gives
a fault; a fault is final unless another reading may still be tried.
-/

namespace EnvAudit

namespace Toml

/-- What is wrong at a place of a text. -/
structure Fault where
  /-- The number of characters from the place to the end of the text. -/
  left : Nat
  /-- What was being read. -/
  label : Option String := none
  /-- What might have stood at the place. -/
  expected : List String := []
  /-- What forbids that which stands there. -/
  cause : Option String := none
  deriving BEq, DecidableEq, Repr, Inhabited

namespace Fault

/-- The message that tells of a fault. -/
def message (fault : Fault) : String :=
  let labels := fault.label.toList.map fun label => s!"invalid {label}"
  let hopes :=
    if fault.expected.isEmpty then [] else ["expected " ++ ", ".intercalate fault.expected]
  "\n".intercalate (labels ++ hopes ++ fault.cause.toList)

end Fault

/-- What comes of reading. -/
inductive Reply (α : Type) where
  | done (value : α) (rest : List Char)
  /-- Another reading may be tried. -/
  | retry (fault : Fault)
  | stop (fault : Fault)

/-- A way to take something from the front of a text. -/
def Reader (α : Type) : Type :=
  List Char → Reply α

namespace Reader

variable {α β : Type}

instance : Monad Reader where
  pure value := fun chars => .done value chars
  bind reader next := fun chars =>
    match reader chars with
    | .done value rest => next value rest
    | .retry fault => .retry fault
    | .stop fault => .stop fault

/-- Finds nothing here. -/
def refuse : Reader α := fun chars =>
  .retry { left := chars.length }

/-- One character that passes the test. -/
def one (test : Char → Bool) : Reader Char
  | [] => .retry { left := 0 }
  | c :: rest => if test c then .done c rest else .retry { left := rest.length + 1 }

def char (c : Char) : Reader Char :=
  one (· == c)

/-- The characters up to the first that fails the test. -/
def run (test : Char → Bool) : Reader (List Char) := fun chars =>
  .done (chars.takeWhile test) (chars.dropWhile test)

/-- The characters up to the first that fails the test, of which there must be
one. -/
def someRun (test : Char → Bool) : Reader (List Char) := fun chars =>
  if (chars.takeWhile test).isEmpty then
    .retry { left := chars.length }
  else
    .done (chars.takeWhile test) (chars.dropWhile test)

/-- Exactly `count` characters that pass the test. -/
def exactly (count : Nat) (test : Char → Bool) : Reader (List Char) := fun chars =>
  if ((chars.take count).filter test).length = count then
    .done (chars.take count) (chars.drop count)
  else
    .retry { left := chars.length }

/-- The given text. -/
def literal (text : List Char) : Reader Unit := fun chars =>
  if text.isPrefixOf chars then
    .done () (chars.drop text.length)
  else
    .retry { left := chars.length }

/-- The end of the text. -/
def ending : Reader Unit
  | [] => .done () []
  | chars => .retry { left := chars.length }

/-- The first reading, or else the second. -/
def orElse (first second : Reader α) : Reader α := fun chars =>
  match first chars with
  | .retry _ => second chars
  | reply => reply

/-- A reading, or none. -/
def optional (reader : Reader α) : Reader (Option α) := fun chars =>
  match reader chars with
  | .done value rest => .done (some value) rest
  | .retry _ => .done none chars
  | .stop fault => .stop fault

/-- A reading of what stays in the text. -/
def ahead (reader : Reader α) : Reader α := fun chars =>
  match reader chars with
  | .done value _ => .done value chars
  | reply => reply

/-- A reading instead of which no other is tried. -/
def final (reader : Reader α) : Reader α := fun chars =>
  match reader chars with
  | .retry fault => .stop fault
  | reply => reply

/-- A reading with its faults changed. -/
def mapFault (change : Fault → Fault) (reader : Reader α) : Reader α := fun chars =>
  match reader chars with
  | .done value rest => .done value rest
  | .retry fault => .retry (change fault)
  | .stop fault => .stop (change fault)

/-- Says what is being read, unless a fault says it more closely. -/
def labelled (label : String) : Reader α → Reader α :=
  mapFault fun fault => { fault with label := fault.label <|> some label }

/-- Adds what might have stood here. -/
def expecting (hope : String) : Reader α → Reader α :=
  mapFault fun fault => { fault with expected := fault.expected ++ [hope] }

/-- A reading whose value is changed; where that fails, the fault is at the
place where the reading began. -/
def check (reader : Reader α) (change : α → Except String β) : Reader β := fun chars =>
  match reader chars with
  | .done value rest =>
      match change value with
      | .ok value => .done value rest
      | .error cause => .retry { left := chars.length, cause := some cause }
  | .retry fault => .retry fault
  | .stop fault => .stop fault

/-- A reading with the numbers of characters left before and behind it. -/
def spanned (reader : Reader α) : Reader (α × Nat × Nat) := fun chars =>
  match reader chars with
  | .done value rest => .done (value, chars.length, rest.length) rest
  | .retry fault => .retry fault
  | .stop fault => .stop fault

/-- As many readings as there are, each of some characters. -/
def many (reader : Reader α) (chars : List Char) : Reply (List α) :=
  match reader chars with
  | .retry _ => .done [] chars
  | .stop fault => .stop fault
  | .done value rest =>
      if rest.length < chars.length then
        match many reader rest with
        | .done values rest => .done (value :: values) rest
        | .retry fault => .retry fault
        | .stop fault => .stop fault
      else
        .done [value] rest
termination_by chars.length

/-- Readings of at least one item with separators between them. -/
def someSeparated (item : Reader α) (separator : Reader β) : Reader (List α) := do
  let first ← item
  let others ← many (do
    let _ ← separator
    item)
  return first :: others

/-- Readings with separators between them. -/
def separated (item : Reader α) (separator : Reader β) : Reader (List α) := do
  return (← optional (someSeparated item separator)).getD []

end Reader

end Toml

end EnvAudit
