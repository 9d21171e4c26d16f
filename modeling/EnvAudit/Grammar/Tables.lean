import EnvAudit.Grammar.Production
import EnvAudit.Grammar.TokenSet

/-!
# Places in productions

The productions of a phrase are read together as a tree that branches where
they differ.  A node of that tree is a `Place`: it says what has been read of
the phrase and what may come next.  Places that promise the same are one.
`Tables` holds the places of a grammar with what can be known of them before
any text is read: the tokens that may come next, and the phrases that may
begin where a phrase is expected.
-/

namespace EnvAudit.Grammar

/-- How the children of a node show in the tree. -/
structure Shape where
  aliases : List (Option Alias)
  fields : List (Option String)
  /-- Children that do not show but pass fields of their own on. -/
  passing : List (Option Nat) := []
  deriving BEq, Hashable, Inhabited

/-- A way to end a phrase at a place. -/
structure Completion where
  dynamic : Int
  /-- The number of the shape of the finished node. -/
  shape : Nat
  deriving BEq, Hashable, Inhabited

/-- What has been read of a phrase and what may come next. -/
structure Place where
  head : Nat
  /-- The number of symbols that have been read. -/
  depth : Nat
  /-- The rank of the symbol read last. -/
  precedence : Precedence
  associativity : Option Associativity
  /-- The symbols that may come next and the places behind them. -/
  edges : List (Nat × Nat)
  completions : List Completion
  deriving BEq, Hashable, Inhabited

/-- A phrase that may begin where another one is expected. -/
structure Beginning where
  phrase : Nat
  /-- Tokens that may follow the beginning phrase within the expected one. -/
  following : TokenSet
  /-- Whether the beginning phrase may also end the expected one. -/
  ends : Bool
  deriving Inhabited

structure Tables where
  vocabulary : Vocabulary
  places : Array Place
  shapes : Array Shape
  /-- The first place of each phrase, by symbol. -/
  roots : Array Nat
  /-- The tokens that a symbol may begin with. -/
  firstTokens : Array TokenSet
  /-- The tokens that may come next at each place. -/
  nextTokens : Array TokenSet
  /-- For each phrase, the phrases that may begin it, itself included. -/
  beginnings : Array (Array Beginning)
  /-- The place before the phrase that a whole text is. -/
  goal : Nat
  /-- Tokens that may stand anywhere. -/
  extras : TokenSet
  /-- The tokens that are special cases of the word token. -/
  keywords : TokenSet
  /-- The fixed texts with their tokens, by first character. -/
  textsByFirst : Array (List (Nat × String))
  /-- The tokens that patterns describe. -/
  lexemes : List Nat
  rankings : List (List Rank)
  isBlank : Char → Bool
  contextTokens : List (ContextToken × Nat)
  contextRules : ContextRules
  /-- Phrases that show neither by themselves nor under an alias and do not
  group others. -/
  traceless : List Nat
  deriving Inhabited

/-- Places and shapes while they are being numbered. -/
structure Numbering where
  places : Array Place := #[]
  placeNumbers : Std.HashMap Place Nat := {}
  shapes : Array Shape := #[]
  shapeNumbers : Std.HashMap Shape Nat := {}

namespace Numbering

def placeNumber (numbering : Numbering) (place : Place) : Nat × Numbering :=
  match numbering.placeNumbers[place]? with
  | some number => (number, numbering)
  | none =>
      let number := numbering.places.size
      (number, { numbering with
        places := numbering.places.push place
        placeNumbers := numbering.placeNumbers.insert place number })

def shapeNumber (numbering : Numbering) (shape : Shape) : Nat × Numbering :=
  match numbering.shapeNumbers[shape]? with
  | some number => (number, numbering)
  | none =>
      let number := numbering.shapes.size
      (number, { numbering with
        shapes := numbering.shapes.push shape
        shapeNumbers := numbering.shapeNumbers.insert shape number })

end Numbering

/-- Groups productions by their next step, in order of first appearance. -/
def groupByStep (rests : List (List Step × Completion)) :
    Array (Step × Array (List Step × Completion)) :=
  let (groups, _) := rests.foldl (fun (groups, index) (steps, completion) =>
    match steps with
    | [] => (groups, index)
    | step :: rest =>
        match index[step]? with
        | some i =>
            (groups.modify i fun (step, members) => (step, members.push (rest, completion)), index)
        | none => (groups.push (step, #[(rest, completion)]), index.insert step groups.size))
    ((#[] : Array (Step × Array (List Step × Completion))), (∅ : Std.HashMap Step Nat))
  groups

/-- The place from which the given rests of productions remain to be read.
The fuel is more than the length of any of them. -/
def placeOf (head depth : Nat) (precedence : Precedence)
    (associativity : Option Associativity) :
    (fuel : Nat) → List (List Step × Completion) → StateM Numbering Nat
  | 0, _ => return 0
  | fuel + 1, rests => do
      let completions := rests.filterMap fun (steps, completion) =>
        if steps.isEmpty then some completion else none
      let mut edges : Array (Nat × Nat) := #[]
      for (step, members) in groupByStep rests do
        let target ← placeOf head (depth + 1) step.precedence step.associativity fuel
          members.toList
        if !edges.contains (step.symbol, target) then
          edges := edges.push (step.symbol, target)
      let place : Place :=
        { head, depth, precedence, associativity, edges := edges.toList
          completions := completions.eraseDups }
      modifyGet fun numbering => numbering.placeNumber place

/-- The first place of a phrase.  `passing` lists the phrases that do not show
but pass fields on. -/
def rootOf (passing : List Nat) (phrase : Phrase) : StateM Numbering Nat := do
  let mut rests : Array (List Step × Completion) := #[]
  let mut longest := 0
  for reading in phrase.readings do
    let shape : Shape :=
      { aliases := reading.steps.map (·.label)
        fields := reading.steps.map (·.field)
        passing := reading.steps.map fun step =>
          if passing.contains step.symbol then some step.symbol else none }
    let number ← modifyGet fun numbering => numbering.shapeNumber shape
    rests := rests.push (reading.steps, ⟨reading.dynamic, number⟩)
    longest := max longest reading.steps.length
  placeOf phrase.head 0 .none none (longest + 1) rests.toList

/-- Repeats a step until it changes nothing, at most `fuel` times. -/
def iterate [BEq α] (step : α → α) : (fuel : Nat) → α → α
  | 0, value => value
  | fuel + 1, value =>
      let next := step value
      if next == value then value else iterate step fuel next

namespace Tables

/-- The union of the first tokens of the symbols that may come next. -/
def tokensAfter (firstTokens : Array TokenSet) (place : Place) : TokenSet :=
  place.edges.foldl (fun tokens (symbol, _) => tokens ∪ firstTokens.getD symbol ∅) ∅

/-- The tokens that each symbol may begin with. -/
def computeFirstTokens (tokenCount symbolCount : Nat) (roots : Array (Nat × Place)) :
    Array TokenSet :=
  let start := (Array.range symbolCount).map fun symbol =>
    if symbol < tokenCount then TokenSet.single symbol else ∅
  iterate (fun firstTokens =>
    roots.foldl (fun firstTokens (head, root) =>
      firstTokens.modify head (· ∪ tokensAfter firstTokens root)) firstTokens)
    symbolCount start

/-- Adds what is known of a beginning.  The flag says whether it is news. -/
def mergeBeginning (found : Array Beginning) (index : Std.HashMap Nat Nat)
    (beginning : Beginning) : Bool × Array Beginning × Std.HashMap Nat Nat :=
  match index[beginning.phrase]? with
  | none =>
      (true, found.push beginning, index.insert beginning.phrase found.size)
  | some i =>
      let known := found.getD i default
      let following := known.following ∪ beginning.following
      let ends := known.ends || beginning.ends
      if following == known.following && ends == known.ends then
        (false, found, index)
      else
        (true, found.set! i { known with following, ends }, index)

/-- All phrases that may begin the given one. -/
def computeBeginnings (places : Array Place) (nextTokens : Array TokenSet)
    (roots : Array Nat) (tokenCount phrase : Nat) : Array Beginning := Id.run do
  let mut found : Array Beginning := #[⟨phrase, ∅, true⟩]
  let mut index : Std.HashMap Nat Nat := {(phrase, 0)}
  let mut pending : Array Nat := #[phrase]
  -- Every round handles one phrase whose entry has grown.
  for _ in [0:roots.size * 64] do
    match pending.back? with
    | none => break
    | some current =>
        pending := pending.pop
        let entry := found.getD (index.getD current 0) default
        let root := places.getD (roots.getD current 0) default
        for (symbol, target) in root.edges do
          if tokenCount ≤ symbol then
            let place := places.getD target default
            let complete := !place.completions.isEmpty
            let next := nextTokens.getD target ∅
            let following := if complete then next ∪ entry.following else next
            let (isNew, found', index') :=
              mergeBeginning found index ⟨symbol, following, complete && entry.ends⟩
            found := found'
            index := index'
            if isNew && !pending.contains symbol then
              pending := pending.push symbol
  return found

/-- Whether a phrase does not show in the tree. -/
def isHidden (vocabulary : Vocabulary) (phrase : Nat) : Bool :=
  !((vocabulary.symbols[phrase]?.map (·.visible)).getD false)

/-- The phrases that do not show but have fields of their own to pass on. -/
def passingPhrases (vocabulary : Vocabulary) (phrases : Array Phrase) : List Nat :=
  iterate (fun (passing : List Nat) =>
    phrases.foldl (fun passing phrase =>
      let hasFields := phrase.readings.any fun reading =>
        reading.steps.any fun step => step.field.isSome || passing.contains step.symbol
      if isHidden vocabulary phrase.head && hasFields && !passing.contains phrase.head then
        phrase.head :: passing
      else
        passing) passing) phrases.size []

/-- The phrases that leave no trace in a tree. -/
def tracelessPhrases (grammar : Ruleset) (vocabulary : Vocabulary) (phrases : Array Phrase) :
    List Nat :=
  let aliased := phrases.toList.flatMap fun phrase =>
    phrase.readings.flatMap fun reading =>
      reading.steps.filterMap fun step => step.label.map fun _ => step.symbol
  let groups := grammar.groups.map fun name => vocabulary.number (.rule name)
  (phrases.toList.map (·.head)).filter fun head =>
    isHidden vocabulary head && !aliased.contains head && !groups.contains head

/-- Prepares a grammar. -/
def ofGrammar (grammar : Ruleset) : Tables := Id.run do
  let { vocabulary, phrases } := grammar.productions
  let tokenCount := vocabulary.forms.size
  let number (name : String) : Nat := vocabulary.number (.rule name)
  let start := grammar.rules.head?.elim 0 fun (name, _) => number name
  -- One more phrase stands for the whole text.
  let whole := vocabulary.symbols.size
  let phrases := phrases.push { head := whole, readings := [⟨[{ symbol := start }], 0⟩] }
  let symbolCount := whole + 1
  let mut numbering : Numbering := {}
  let mut roots : Array Nat := Array.replicate symbolCount 0
  let passing := passingPhrases vocabulary phrases
  for phrase in phrases do
    let (root, later) := (rootOf passing phrase).run numbering
    numbering := later
    roots := roots.setIfInBounds phrase.head root
  let places := numbering.places
  let headed := phrases.map fun phrase =>
    (phrase.head, places.getD (roots.getD phrase.head 0) default)
  let firstTokens := computeFirstTokens tokenCount symbolCount headed
  let nextTokens := places.map (tokensAfter firstTokens)
  let beginnings := (Array.range symbolCount).map fun symbol =>
    if symbol < tokenCount then #[]
    else computeBeginnings places nextTokens roots tokenCount symbol
  let word := number grammar.word
  let keywords := (List.range tokenCount).filter fun token =>
    match vocabulary.form word, vocabulary.form token with
    | .lexeme matcher _ _, .text content =>
        matcher.longest content 0 == some content.utf8ByteSize
    | _, _ => false
  let mut textsByFirst : Array (List (Nat × String)) := Array.replicate 128 []
  let mut lexemes : List Nat := []
  for token in [0:tokenCount] do
    match vocabulary.form token with
    | .text content =>
        textsByFirst := textsByFirst.modify (charAt content 0).toNat ((token, content) :: ·)
    | .lexeme .. => lexemes := token :: lexemes
    | .context => pure ()
  return {
    vocabulary
    places
    shapes := numbering.shapes
    roots
    firstTokens
    nextTokens
    beginnings
    goal := roots.getD whole 0
    extras := TokenSet.ofList (grammar.extras.map number)
    keywords := TokenSet.ofList keywords
    textsByFirst
    lexemes
    rankings := grammar.rankings
    isBlank := grammar.isBlank
    contextTokens := grammar.contextTokens.map fun (role, leaf) =>
      (role, vocabulary.number leaf)
    contextRules := grammar.contextRules
    traceless := tracelessPhrases grammar vocabulary phrases }

/-- The number of the word token. -/
def word (_ : Tables) : Nat := 1

def tokenCount (tables : Tables) : Nat :=
  tables.vocabulary.forms.size

/-- The symbol that stands for a whole text. -/
def whole (tables : Tables) : Nat :=
  tables.vocabulary.symbols.size

def place (tables : Tables) (number : Nat) : Place :=
  tables.places.getD number default

def info (tables : Tables) (symbol : Nat) : SymbolInfo :=
  tables.vocabulary.symbols.getD symbol default

end Tables

end EnvAudit.Grammar
