import EnvAudit.Parsing.Context

/-!
# The next token

Where a text is read, only some tokens are looked for.  `Tables.contextToken`
finds one that only the context tells.  The others are begun side by side and
go on character by character.  A token that is complete goes on only as the
same or as one of higher rank, so that `Tables.plainToken` finds the longest
token of the highest rank, and of those a fixed text before a pattern.  Where
none is found, `Scan.stop` says how far the text looked like one.
-/

namespace EnvAudit.Grammar

/-- A token that was found in a text. -/
structure Found where
  token : Nat
  start : Nat
  stop : Nat
  deriving Inhabited

/-- What may still come of a token that has been begun. -/
inductive Remainder where
  /-- The rest of a fixed text. -/
  | text (chars : List Char)
  /-- The tests of a pattern that may take the next character. -/
  | pattern (matcher : PatternMatcher) (candidates : Nat) (complete : Bool)

namespace Remainder

/-- The whole token may have been read. -/
def isComplete : Remainder → Bool
  | .text chars => chars.isEmpty
  | .pattern _ _ complete => complete

/-- What remains behind a character, if the token may go on with it. -/
def next? (c : Char) : Remainder → Option Remainder
  | .text [] => none
  | .text (first :: rest) => if first = c then some (.text rest) else none
  | .pattern matcher candidates _ =>
      let accepted := matcher.accepting candidates c
      if accepted = 0 then
        none
      else
        some (.pattern matcher (PatternMatcher.unionAt matcher.follow accepted)
          (accepted &&& matcher.last != 0))

end Remainder

/-- A token that has been begun, with what decides between it and others. -/
structure Thread where
  token : Nat
  precedence : Int
  specificity : Nat
  rest : Remainder

namespace Thread

/-- Of two tokens that fit the same text, whether the first is taken. -/
def beats (first second : Thread) : Bool :=
  if first.precedence != second.precedence then second.precedence < first.precedence
  else if first.specificity != second.specificity then second.specificity < first.specificity
  else first.token < second.token

def next? (c : Char) (thread : Thread) : Option Thread :=
  (thread.rest.next? c).map fun rest => { thread with rest }

/-- The best of the tokens that are complete. -/
def completed? (threads : List Thread) : Option Thread :=
  threads.foldl (fun best thread =>
    if thread.rest.isComplete && best.all thread.beats then some thread else best) none

end Thread

/-- How far the search for a token has come. -/
structure Scan where
  /-- Tokens that have been begun. -/
  threads : List Thread := []
  /-- Only blanks have been passed on one way at least, so that tokens may begin. -/
  fresh : Bool := true
  /-- Nothing has been passed, so that tokens that may not follow blanks may begin. -/
  adjacent : Bool := true
  /-- Nothing but blanks has been passed. -/
  blank : Bool := true
  /-- The first byte of the token. -/
  start : Nat
  /-- The best token so far. -/
  found : Option Found := none
  /-- The byte behind the last character that some token accepts. -/
  stop : Nat

namespace Scan

/-- The sought tokens that may begin with a character. -/
def begun (tables : Tables) (sought : TokenSet) (adjacent : Bool) (c : Char) : List Thread :=
  let texts := (tables.textsByFirst.getD c.toNat []).filterMap fun (token, content) =>
    if sought.contains token then
      some ⟨token, 0, (TokenForm.text content).specificity, .text (content.toList.drop 1)⟩
    else
      none
  tables.lexemes.foldl (fun threads token =>
    let form := tables.vocabulary.form token
    match form with
    | .lexeme matcher immediate precedence =>
        if sought.contains token && (adjacent || !immediate) then
          let start : Thread :=
            ⟨token, precedence, form.specificity, .pattern matcher matcher.first false⟩
          match start.next? c with
          | some thread => thread :: threads
          | none => threads
        else
          threads
    | _ => threads) texts

/-- Whether the search goes on behind a complete token.  `next` are the tokens
that accept the next character, which is a blank between tokens if `gap` is
set. -/
def goesOn (scan : Scan) (completed : Option Thread) (next : List Thread) (gap : Bool) : Bool :=
  match completed with
  | none => true
  | some thread =>
      let isSame (other : Thread) : Bool := other.token == thread.token
      next.any (fun other => thread.precedence < other.precedence) ||
        (gap && thread.precedence < 0) ||
        ((!scan.fresh || next.any isSame) &&
          (next.any fun other => thread.precedence == other.precedence))

/-- Notes the best token that is complete at byte `i`. -/
def note (scan : Scan) (completed : Option Thread) (i : Nat) : Scan :=
  { scan with
    found := (completed.map fun thread => ⟨thread.token, scan.start, i⟩) <|> scan.found
    stop := i }

/-- Goes on from byte `i` to the end of the search. -/
def run (tables : Tables) (text : String) (sought : TokenSet) (scan : Scan) (i : Nat) : Scan :=
  let completed := Thread.completed? scan.threads
  let scan := scan.note completed i
  if _inside : i < text.utf8ByteSize then
    let c := charAt text i
    let gap := scan.fresh && tables.isBlank c
    let next := scan.threads.filterMap (·.next? c) ++
      (if scan.fresh then begun tables sought scan.adjacent c else [])
    if (next.isEmpty && !gap) || !scan.goesOn completed next gap then
      scan
    else
      run tables text sought
        { scan with
          threads := next
          fresh := gap
          adjacent := false
          blank := scan.blank && next.isEmpty
          start := if next.isEmpty then i + c.utf8Size else scan.start }
        (i + c.utf8Size)
  else if scan.blank && sought.contains 0 then
    { scan with found := some ⟨0, i, i⟩ }
  else
    scan
termination_by text.utf8ByteSize - i
decreasing_by
  have := Char.utf8Size_pos (charAt text i)
  omega

end Scan

namespace Tables

/-- The search for one of the sought tokens at byte `i` or behind the blanks
there. -/
def scan (tables : Tables) (text : String) (sought : TokenSet) (i : Nat) : Scan :=
  Scan.run tables text sought { start := i, stop := i } i

/-- The best of the sought tokens at byte `i` or behind the blanks there. -/
def plainToken (tables : Tables) (text : String) (sought : TokenSet) (i : Nat) :
    Option Found :=
  (tables.scan text sought i).found

/-- The valid token at byte `i` that only its context tells. -/
def contextToken (tables : Tables) (text : String) (valid : TokenSet) (i : Nat) :
    Option Found :=
  let isValid (token : ContextToken) : Bool :=
    match tables.contextTokens.lookup token with
    | some number => valid.contains number
    | none => false
  (tables.contextRules.scan text isValid i).bind fun found =>
    (tables.contextTokens.lookup found.token).map fun number =>
      ⟨number, found.start, found.stop⟩

/-- The keyword that a word is, if it is one. -/
def keyword? (tables : Tables) (text : String) (found : Found) : Option Nat :=
  if found.token = tables.word then
    let word := slice text found.start found.stop
    tables.vocabulary.byKey[((true, word) : Bool × String)]?.filter
      tables.keywords.contains
  else
    none

end Tables

end EnvAudit.Grammar
