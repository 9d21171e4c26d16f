import EnvAudit.Grammar.Tables

/-!
# Overlaps of tokens

Where two tokens are looked for at once, one of them may begin like the other,
go on where the other ends, or fit the same text.  `Overlap` says how a token
stands to another one, and `Overlaps` holds for each token the others that it
meets in these ways.
-/

namespace EnvAudit.Grammar

/-- Characters of every kind that tokens tell apart.  A set of them is a number
with a bit for each place in this array. -/
def sampleChars : Array Char :=
  (Array.range 127).map (fun n => Char.ofNat (n + 1)) ++
    #['\u0080', '\u00a0', '\u00e9', '\u1680', '\u2000', '\u200b', '\u2028', '\u2029', '\u202f',
      '\u205f', '\u2060', '\u3000', '\u4e00', '\ufeff']

/-- The sample characters that pass a test. -/
def samplesOf (test : Char → Bool) : Nat :=
  sampleChars.size.fold (fun i _ set =>
    if test sampleChars[i] then set ||| 1 <<< i else set) 0

/-- A token as it is compared with others. -/
structure TokenTraits where
  /-- For each test of the pattern the characters that pass it. -/
  tests : Array Nat
  /-- The tests that may take the first character. -/
  first : Nat
  /-- The tests after which the token may end. -/
  last : Nat
  /-- For each test, the tests that may take the next character. -/
  follow : Array Nat
  /-- The token may not follow blanks. -/
  immediate : Bool
  precedence : Int
  specificity : Nat
  /-- The characters that the token may begin with. -/
  beginning : Nat
  deriving Inhabited

namespace TokenTraits

/-- The characters that some of the candidates accept. -/
def acceptedBy (tests : Array Nat) (candidates : Nat) : Nat :=
  PatternMatcher.unionAt tests candidates

def ofMatcher (matcher : PatternMatcher) (immediate : Bool) (precedence : Int)
    (specificity : Nat) : TokenTraits :=
  let tests := matcher.tests.map samplesOf
  { tests, immediate, precedence, specificity
    first := matcher.first
    last := matcher.last
    follow := matcher.follow
    beginning := acceptedBy tests matcher.first }

/-- The traits of a fixed text or of a token that a pattern describes. -/
def ofForm (form : TokenForm) : Option TokenTraits :=
  match form with
  | .text content =>
      some (ofMatcher (PatternMatcher.ofPattern (Pattern.word content)) false 0 form.specificity)
  | .lexeme matcher immediate precedence =>
      some (ofMatcher matcher immediate precedence form.specificity)
  | .context => none

/-- The candidates that accept a character. -/
def accepting (traits : TokenTraits) (candidates char : Nat) : Nat :=
  traits.tests.size.fold (fun i _ set =>
    if candidates.testBit i && traits.tests[i].testBit char then set ||| 1 <<< i else set) 0

/-- The characters that the token may begin with, blanks before it included. -/
def starting (blanks : Nat) (traits : TokenTraits) : Nat :=
  if traits.immediate then traits.beginning else traits.beginning ||| blanks

/-- Whether a token is taken before another one that fits the same text.  The
flag says whether the rules mention it first. -/
def isPreferred (first second : TokenTraits) (mentionedFirst : Bool) : Bool :=
  if first.precedence != second.precedence then second.precedence < first.precedence
  else if first.specificity != second.specificity then second.specificity < first.specificity
  else mentionedFirst

end TokenTraits

/-- What may still come of a token. -/
structure TokenRest where
  /-- Blanks may still come before the token. -/
  before : Bool
  /-- The tests that may take the next character. -/
  candidates : Nat
  /-- What has been read is the token. -/
  complete : Bool
  deriving BEq, Inhabited

namespace TokenRest

def start (traits : TokenTraits) : TokenRest :=
  ⟨!traits.immediate, traits.first, false⟩

/-- The characters that may come next. -/
def chars (blanks : Nat) (traits : TokenTraits) (rest : TokenRest) : Nat :=
  TokenTraits.acceptedBy traits.tests rest.candidates ||| (if rest.before then blanks else 0)

/-- What remains behind a character. -/
def next (blanks : Nat) (traits : TokenTraits) (rest : TokenRest) (char : Nat) : TokenRest :=
  let taken := traits.accepting rest.candidates char
  let before := rest.before && blanks.testBit char
  { before
    candidates := PatternMatcher.unionAt traits.follow taken |||
      (if before then traits.first else 0)
    complete := taken &&& traits.last != 0 }

end TokenRest

/-- How a token stands to another one. -/
structure Overlap where
  /-- The token ends where the other one goes on, and it is preferred. -/
  beginsOther : Bool := false
  /-- The token goes on where the other one ends. -/
  continuesOther : Bool := false
  /-- The same, with a character that may also follow the other one. -/
  continuesValidly : Bool := false
  /-- The token takes blanks that may stand before the other one. -/
  takesBlanks : Bool := false
  /-- Both fit the same text and the token is taken. -/
  winsSame : Bool := false
  deriving Inhabited

namespace Overlap

/-- Finding the token may hide that the other one was meant. -/
def isConflict (overlap : Overlap) : Bool :=
  overlap.continuesValidly || overlap.takesBlanks || overlap.winsSame

def isAny (overlap : Overlap) : Bool :=
  overlap.takesBlanks || overlap.beginsOther || overlap.winsSame || overlap.continuesOther

/-- What is learned where one token is complete and the other goes on behind it
with one of the given characters: how the longer token stands to the shorter,
and the shorter to the longer. -/
def behind (longer shorter : TokenTraits) (chars followShorter : Nat)
    (ofLonger ofShorter : Overlap) : Overlap × Overlap :=
  if chars = 0 then
    (ofLonger, ofShorter)
  else if shorter.precedence ≤ longer.precedence then
    ({ ofLonger with
        continuesOther := true
        continuesValidly := ofLonger.continuesValidly || chars &&& followShorter != 0 }, ofShorter)
  else
    (ofLonger, { ofShorter with beginsOther := true })

end Overlap

/-- Two tokens that are compared, with the characters that may follow them. -/
structure TokenPair where
  first : TokenTraits
  second : TokenTraits
  /-- The rules mention the first before the second. -/
  inOrder : Bool
  afterFirst : Nat
  afterSecond : Nat

/-- The progress of a comparison: how each token stands to the other, and what
one and the same text can leave of both. -/
structure OverlapSearch where
  first : Overlap := {}
  second : Overlap := {}
  seen : List (TokenRest × TokenRest) := []
  pending : List (TokenRest × TokenRest) := []

namespace OverlapSearch

/-- What is learned from what a text leaves of both tokens. -/
def learn (pair : TokenPair) (rests : TokenRest × TokenRest) (firstChars secondChars : Nat)
    (first second : Overlap) : Overlap × Overlap :=
  let (a, b) := rests
  if a.before || b.before then
    if a.complete then ({ first with takesBlanks := true }, second)
    else if b.complete then (first, { second with takesBlanks := true })
    else (first, second)
  else
    let either := firstChars ||| secondChars
    let firstWins := pair.first.isPreferred pair.second pair.inOrder
    let (first, second) :=
      if a.complete && b.complete then
        if firstWins then ({ first with winsSame := true }, second)
        else (first, { second with winsSame := true })
      else
        (first, second)
    if a.complete && (firstWins || !b.complete) then
      (Overlap.behind pair.second pair.first (either ^^^ firstChars) pair.afterFirst
        second first).swap
    else if b.complete then
      Overlap.behind pair.first pair.second (either ^^^ secondChars) pair.afterSecond first second
    else
      (first, second)

/-- Looks at what a text leaves of both tokens and at all longer texts. -/
def visit (blanks : Nat) (pair : TokenPair) (search : OverlapSearch)
    (rests : TokenRest × TokenRest) : OverlapSearch :=
  let firstChars := rests.1.chars blanks pair.first
  let secondChars := rests.2.chars blanks pair.second
  let (first, second) := learn pair rests firstChars secondChars search.first search.second
  let shared := firstChars &&& secondChars
  (List.range sampleChars.size).foldl (fun search char =>
    if shared.testBit char then
      let next := (rests.1.next blanks pair.first char, rests.2.next blanks pair.second char)
      if search.seen.contains next then search
      else { search with seen := next :: search.seen, pending := next :: search.pending }
    else
      search) { search with first, second }

def run (blanks : Nat) (pair : TokenPair) : (fuel : Nat) → OverlapSearch → OverlapSearch
  | 0, search => search
  | fuel + 1, search =>
      match search.pending with
      | [] => search
      | rests :: pending => run blanks pair fuel (visit blanks pair { search with pending } rests)

end OverlapSearch

/-- How two tokens stand to each other. -/
def TokenPair.compare (blanks : Nat) (pair : TokenPair) : Overlap × Overlap :=
  let mayMeet :=
    if pair.first.immediate || pair.second.immediate then
      pair.first.starting blanks &&& pair.second.starting blanks != 0
    else
      pair.first.beginning &&& pair.second.beginning != 0
  if mayMeet then
    let search := OverlapSearch.run blanks pair 5000
      { pending := [(TokenRest.start pair.first, TokenRest.start pair.second)] }
    (search.first, search.second)
  else
    ({}, {})

/-- For each token, the tokens that it stands to in some way. -/
structure Overlaps where
  /-- Tokens that may be meant where the token is found. -/
  conflicts : Array TokenSet
  /-- Tokens that the token cuts short. -/
  begins : Array TokenSet
  /-- Tokens that the token overlaps in any way. -/
  meeting : Array TokenSet
  /-- Tokens that the token hides by its length. -/
  outlasts : Array TokenSet
  deriving Inhabited

/-- Notes how token `i` stands to token `j`. -/
def Overlaps.add (overlaps : Overlaps) (i j : Nat) (own other : Overlap) : Overlaps where
  conflicts := note own.isConflict overlaps.conflicts
  begins := note own.beginsOther overlaps.begins
  meeting := note own.isAny overlaps.meeting
  outlasts := note ((own.continuesValidly || own.takesBlanks) && !other.takesBlanks)
    overlaps.outlasts
where
  note (holds : Bool) (sets : Array TokenSet) : Array TokenSet :=
    if holds then sets.modify i (·.insert j) else sets

namespace Tables

/-- The tokens that each symbol may end with. -/
def lastTokens (tables : Tables) : Array TokenSet :=
  let start := (Array.range (tables.whole + 1)).map fun symbol =>
    if symbol < tables.tokenCount then TokenSet.single symbol else ∅
  let endings := tables.places.toList.flatMap fun place =>
    place.edges.filterMap fun (symbol, target) =>
      if (tables.place target).completions.isEmpty then none else some (place.head, symbol)
  iterate (fun last => endings.foldl (fun last (head, symbol) =>
    last.modify head (· ∪ last.getD symbol ∅)) last) (tables.whole + 1) start

/-- The tokens that may follow each token. -/
def followingTokens (tables : Tables) : Array TokenSet :=
  let last := tables.lastTokens
  let start : Array TokenSet := Array.replicate tables.tokenCount tables.extras
  let following := tables.places.foldl (fun following place =>
    place.edges.foldl (fun following (symbol, target) =>
      let next := tables.nextTokens.getD target ∅
      if next.isEmpty then following
      else (last.getD symbol ∅).toList.foldl (fun following token =>
        following.modify token (· ∪ next)) following) following) start
  following.mapIdx fun token tokens =>
    if tables.extras.contains token then TokenSet.below tables.tokenCount else tokens

/-- How the tokens stand to each other. -/
def overlaps (tables : Tables) : Overlaps := Id.run do
  let count := tables.tokenCount
  let blanks := samplesOf tables.isBlank
  let traits := tables.vocabulary.forms.map TokenTraits.ofForm
  let starting := traits.map fun traits => (traits.map (·.starting blanks)).getD 0
  let after := tables.followingTokens.map fun tokens => tokens.toList.foldl
    (fun chars token => chars ||| starting.getD token 0) 0
  let mention := tables.vocabulary.mention
  let nothing : Array TokenSet := Array.replicate count ∅
  let mut overlaps : Overlaps := ⟨nothing, nothing, nothing, nothing⟩
  for j in [0:count] do
    if let some second := traits.getD j none then
      for i in [0:j] do
        if let some first := traits.getD i none then
          let (own, other) := TokenPair.compare blanks
            { first, second, inOrder := mention i < mention j
              afterFirst := after.getD i 0, afterSecond := after.getD j 0 }
          overlaps := overlaps.add i j own other
          overlaps := overlaps.add j i other own
  return overlaps

end Tables

end EnvAudit.Grammar
