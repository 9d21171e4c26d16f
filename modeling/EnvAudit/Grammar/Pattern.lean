/-!
# Token patterns

A token of a language is described by a `Pattern`, a regular expression over
characters.  Matching is by positions: every single-character test of the
expression is numbered, and a set of numbers says which tests may take the
next character.  `PatternMatcher.longest` finds the longest prefix of the rest
of a text that the pattern accepts.
-/

namespace EnvAudit

/-- The character of `text` that starts at byte `i`, and NUL behind the end. -/
@[inline]
def charAt (text : String) (i : Nat) : Char :=
  if i < text.utf8ByteSize then String.Pos.Raw.get text ⟨i⟩ else '\x00'

/-- The first byte at or after `i` whose character fails the test. -/
def skipWhile (text : String) (test : Char → Bool) (i : Nat) : Nat :=
  if _inside : i < text.utf8ByteSize then
    let c := charAt text i
    if test c then skipWhile text test (i + c.utf8Size) else i
  else
    i
termination_by text.utf8ByteSize - i
decreasing_by
  have := Char.utf8Size_pos (charAt text i)
  omega

/-- The text between two bytes. -/
@[inline]
def slice (text : String) (start stop : Nat) : String :=
  String.Pos.Raw.extract text ⟨start⟩ ⟨stop⟩

/-- Whether `word` stands in `text` at byte `i`. -/
def standsAt (text word : String) (i : Nat) : Bool :=
  i + word.utf8ByteSize ≤ text.utf8ByteSize &&
    String.Pos.Raw.substrEq text ⟨i⟩ word ⟨0⟩ word.utf8ByteSize

namespace Grammar

/-- A regular expression over characters. -/
inductive Pattern where
  /-- The empty text. -/
  | empty
  /-- One character that passes the test. -/
  | one (test : Char → Bool)
  | seq (first second : Pattern)
  | alt (first second : Pattern)
  /-- Any number of repetitions, none included. -/
  | star (body : Pattern)

namespace Pattern

/-- One given character. -/
def char (c : Char) : Pattern :=
  .one (· == c)

/-- One character of a range, ends included. -/
def range (low high : Char) : Pattern :=
  .one fun c => low ≤ c && c ≤ high

/-- One character of the given ones. -/
def anyOf (chars : String) : Pattern :=
  .one fun c => chars.contains c

/-- One character that is none of the given ones. -/
def noneOf (chars : String) : Pattern :=
  .one fun c => !chars.contains c && c != '\x00'

def seqs : List Pattern → Pattern
  | [] => .empty
  | [body] => body
  | first :: rest => .seq first (seqs rest)

def alts : List Pattern → Pattern
  | [] => .one fun _ => false
  | [body] => body
  | first :: rest => .alt first (alts rest)

/-- The given text. -/
def word (text : String) : Pattern :=
  seqs (text.toList.map char)

def opt (body : Pattern) : Pattern :=
  .alt body .empty

def plus (body : Pattern) : Pattern :=
  .seq body (.star body)

/-- Between `low` and `low + extra` repetitions. -/
def times (body : Pattern) : (low extra : Nat) → Pattern
  | 0, 0 => .empty
  | 0, extra + 1 => opt (.seq body (times body 0 extra))
  | low + 1, extra => .seq body (times body low extra)

end Pattern

/-- A pattern with its single-character tests numbered.  Sets of numbers are
the bits of a natural number. -/
structure PatternMatcher where
  tests : Array (Char → Bool)
  /-- Whether the empty text is accepted. -/
  nullable : Bool
  /-- The tests that may take the first character. -/
  first : Nat
  /-- The tests after which the text may end. -/
  last : Nat
  /-- For each test, the tests that may take the next character. -/
  follow : Array Nat

namespace PatternMatcher

/-- The union of the entries of `sets` at the members of `members`. -/
def unionAt (sets : Array Nat) (members : Nat) : Nat :=
  sets.size.fold (fun i _ union =>
    if members.testBit i then union ||| sets[i] else union) 0

/-- Adds `successors` to the entries of `sets` at the members of `members`. -/
def extendAt (sets : Array Nat) (members successors : Nat) : Array Nat :=
  sets.mapIdx fun i successorsOfI =>
    if members.testBit i then successorsOfI ||| successors else successorsOfI

/-- Numbers the tests of a pattern, the first of them `offset`. -/
def build (follow : Array Nat) (tests : Array (Char → Bool)) : Pattern → PatternMatcher
  | .empty => { tests, follow, nullable := true, first := 0, last := 0 }
  | .one test =>
      let number := 1 <<< tests.size
      { tests := tests.push test, follow := follow.push 0, nullable := false
        first := number, last := number }
  | .seq left right =>
      let a := build follow tests left
      let b := build a.follow a.tests right
      { tests := b.tests
        follow := extendAt b.follow a.last b.first
        nullable := a.nullable && b.nullable
        first := if a.nullable then a.first ||| b.first else a.first
        last := if b.nullable then a.last ||| b.last else b.last }
  | .alt left right =>
      let a := build follow tests left
      let b := build a.follow a.tests right
      { tests := b.tests, follow := b.follow
        nullable := a.nullable || b.nullable
        first := a.first ||| b.first
        last := a.last ||| b.last }
  | .star body =>
      let a := build follow tests body
      { a with follow := extendAt a.follow a.last a.first, nullable := true }

/-- The matcher of a pattern. -/
def ofPattern (pattern : Pattern) : PatternMatcher :=
  build #[] #[] pattern

/-- The candidates that accept the character. -/
def accepting (matcher : PatternMatcher) (candidates : Nat) (c : Char) : Nat :=
  matcher.tests.size.fold (fun i _ accepted =>
    if candidates.testBit i && matcher.tests[i] c then accepted ||| (1 <<< i) else accepted) 0

/-- The end of the longest match that goes on from `i` with one of the
candidates, and `best` if there is none. -/
def longestFrom (matcher : PatternMatcher) (text : String) (candidates i : Nat)
    (best : Option Nat) : Option Nat :=
  if _inside : i < text.utf8ByteSize then
    let c := charAt text i
    let accepted := matcher.accepting candidates c
    if accepted = 0 then
      best
    else
      let next := i + c.utf8Size
      let best := if accepted &&& matcher.last = 0 then best else some next
      longestFrom matcher text (unionAt matcher.follow accepted) next best
  else
    best
termination_by text.utf8ByteSize - i
decreasing_by
  have := Char.utf8Size_pos (charAt text i)
  omega

/-- The end of the longest prefix of the text from byte `i` that the pattern
accepts. -/
def longest (matcher : PatternMatcher) (text : String) (i : Nat) : Option Nat :=
  matcher.longestFrom text matcher.first i (if matcher.nullable then some i else none)

end PatternMatcher

end Grammar

end EnvAudit
