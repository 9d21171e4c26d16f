import EnvAudit.Grammar.Pattern
import EnvAudit.Sorted

/-!
# Source texts

A source text with the places where its lines begin.  Only a line feed ends a
line.
-/

namespace EnvAudit

/-- A place in a text: line and byte column, both from zero. -/
structure Point where
  row : Nat
  column : Nat
  deriving BEq, DecidableEq, Repr, Inhabited

structure Source where
  text : String
  /-- The first bytes of the lines, in order. -/
  lineStarts : Array Nat
  deriving Inhabited

namespace Source

/-- The bytes behind the line feeds of a text. -/
def lineStartsFrom (text : String) (i : Nat) (found : Array Nat) : Array Nat :=
  if _inside : i < text.utf8ByteSize then
    let c := charAt text i
    let next := i + c.utf8Size
    lineStartsFrom text next (if c = '\n' then found.push next else found)
  else
    found
termination_by text.utf8ByteSize - i
decreasing_by
  have := Char.utf8Size_pos (charAt text i)
  omega

def ofText (text : String) : Source where
  text := text
  lineStarts := lineStartsFrom text 0 #[0]

@[inline]
def size (source : Source) : Nat :=
  source.text.utf8ByteSize

/-- The line that holds a byte. -/
def row (source : Source) (byte : Nat) : Nat :=
  countAtMost source.lineStarts byte 0 source.lineStarts.size - 1

def point (source : Source) (byte : Nat) : Point :=
  let row := source.row byte
  { row, column := byte - source.lineStarts.getD row 0 }

end Source

end EnvAudit
