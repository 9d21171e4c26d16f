import Std.Data.HashMap
import EnvAudit.Grammar.Rule

/-!
# Productions

The rules of a grammar become productions: plain sequences of numbered
symbols.  Tokens are numbered before phrases and the word token before all
others.  A repetition becomes a phrase of its own that is either one copy of
its body or two of itself side by side; a choice becomes several productions;
an inlined rule is replaced by its productions.
-/

namespace EnvAudit.Grammar

namespace Rule

mutual

/-- The leaves of a rule from left to right. -/
def leaves : Rule σ → List σ
  | .blank => []
  | .leaf symbol => [symbol]
  | .seq members | .choice members => leavesOfAll members
  | .many body | .ranked _ _ body | .dynamic _ body | .field _ body | .labelled _ body =>
      leaves body

def leavesOfAll : List (Rule σ) → List σ
  | [] => []
  | member :: members => leaves member ++ leavesOfAll members

end

mutual

/-- Replaces every leaf. -/
def mapLeaves (f : σ → τ) : Rule σ → Rule τ
  | .blank => .blank
  | .leaf symbol => .leaf (f symbol)
  | .seq members => .seq (mapLeavesOfAll f members)
  | .choice members => .choice (mapLeavesOfAll f members)
  | .many body => .many (mapLeaves f body)
  | .ranked precedence associativity body =>
      .ranked precedence associativity (mapLeaves f body)
  | .dynamic precedence body => .dynamic precedence (mapLeaves f body)
  | .field name body => .field name (mapLeaves f body)
  | .labelled label body => .labelled label (mapLeaves f body)

def mapLeavesOfAll (f : σ → τ) : List (Rule σ) → List (Rule τ)
  | [] => []
  | member :: members => mapLeaves f member :: mapLeavesOfAll f members

end

end Rule

/-- What is known of a numbered symbol. -/
structure SymbolInfo where
  /-- The rule that defines the symbol. -/
  rule : String
  /-- The name by which nodes of the symbol show. -/
  name : String
  /-- Nodes of this symbol show in the tree. -/
  visible : Bool
  named : Bool
  /-- The symbol stands for a repetition. -/
  auxiliary : Bool := false
  deriving Inhabited

/-- A symbol in a production, with what is said of its place. -/
structure Step where
  symbol : Nat
  precedence : Precedence := .none
  associativity : Option Associativity := none
  label : Option Alias := none
  field : Option String := none
  deriving BEq, Hashable, Inhabited

/-- One way to read a phrase. -/
structure Reading where
  steps : List Step
  dynamic : Int := 0
  deriving Inhabited

namespace Reading

/-- Of two dynamic precedences the one of greater size, the first on a tie. -/
def strongerDynamic (first second : Int) : Int :=
  if first.natAbs < second.natAbs then second else first

/-- One reading after another. -/
def append (first second : Reading) : Reading :=
  ⟨first.steps ++ second.steps, strongerDynamic first.dynamic second.dynamic⟩

/-- Changes the last step. -/
def modifyLast (change : Step → Step) (reading : Reading) : Reading :=
  match reading.steps.reverse with
  | [] => reading
  | last :: before => { reading with steps := (change last :: before).reverse }

end Reading

mutual

/-- The readings of a rule without repetitions.  `outer` says what encloses
the rule; a rank counts for the last step of its rule only if nothing can
follow that step in the production. -/
def Rule.readings (outer : Step) (atEnd : Bool) : Rule Nat → List Reading
  | .blank => [⟨[], 0⟩]
  | .leaf symbol => [⟨[{ outer with symbol }], 0⟩]
  | .seq members => Rule.seqReadings outer atEnd members
  | .choice members => Rule.choiceReadings outer atEnd members
  | .many _ => []
  | .ranked precedence associativity body =>
      let ranks := precedence != .none
      let inner := { outer with
        precedence := if ranks then precedence else outer.precedence
        associativity := associativity.orElse fun _ => outer.associativity }
      let readings := Rule.readings inner atEnd body
      if atEnd then
        readings
      else
        readings.map (Reading.modifyLast fun step => { step with
          precedence := if ranks then outer.precedence else step.precedence
          associativity :=
            if associativity.isSome then outer.associativity else step.associativity })
  | .dynamic precedence body =>
      (Rule.readings outer atEnd body).map fun reading =>
        { reading with dynamic := Reading.strongerDynamic precedence reading.dynamic }
  | .field name body => Rule.readings { outer with field := some name } atEnd body
  | .labelled label body => Rule.readings { outer with label := some label } atEnd body

def Rule.seqReadings (outer : Step) (atEnd : Bool) : List (Rule Nat) → List Reading
  | [] => [⟨[], 0⟩]
  | [last] => Rule.readings outer atEnd last
  | member :: members =>
      let heads := Rule.readings outer false member
      let tails := Rule.seqReadings outer atEnd members
      heads.flatMap fun head => tails.map head.append

def Rule.choiceReadings (outer : Step) (atEnd : Bool) : List (Rule Nat) → List Reading
  | [] => []
  | member :: members =>
      Rule.readings outer atEnd member ++ Rule.choiceReadings outer atEnd members

end

/-- The repetitions met so far and the phrases made for them. -/
structure Repetitions where
  /-- The number of the next new phrase. -/
  next : Nat
  known : List (Rule Nat × Nat)
  added : Array (String × Rule Nat)

mutual

/-- Replaces every repetition by a phrase of its own.  Equal bodies share
their phrase. -/
def Rule.expand (owner : String) : Rule Nat → StateM Repetitions (Rule Nat)
  | .blank => return .blank
  | .leaf symbol => return .leaf symbol
  | .seq members => return .seq (← Rule.expandAll owner members)
  | .choice members => return .choice (← Rule.expandAll owner members)
  | .many body => do
      let body ← Rule.expand owner body
      let repetitions ← get
      match repetitions.known.find? (·.1 == body) with
      | some (_, symbol) => return .leaf symbol
      | none =>
          let symbol := repetitions.next
          let twice : Rule Nat := .seq [.leaf symbol, .leaf symbol]
          set { next := symbol + 1
                known := (body, symbol) :: repetitions.known
                added := repetitions.added.push
                  (owner ++ "_repeat", .choice [twice, body]) : Repetitions }
          return .leaf symbol
  | .ranked precedence associativity body =>
      return .ranked precedence associativity (← Rule.expand owner body)
  | .dynamic precedence body => return .dynamic precedence (← Rule.expand owner body)
  | .field name body => return .field name (← Rule.expand owner body)
  | .labelled label body => return .labelled label (← Rule.expand owner body)

def Rule.expandAll (owner : String) : List (Rule Nat) → StateM Repetitions (List (Rule Nat))
  | [] => return []
  | member :: members => return (← Rule.expand owner member) :: (← Rule.expandAll owner members)

end

/-- A token as the lexer sees it. -/
inductive TokenForm where
  | text (content : String)
  | lexeme (matcher : PatternMatcher) (immediate : Bool) (precedence : Int)
  /-- Recognised from its context alone. -/
  | context
  deriving Inhabited

namespace TokenForm

def isContext : TokenForm → Bool
  | .context => true
  | .text _ | .lexeme .. => false

/-- Of two tokens of one precedence that fit the same text the more specific
is taken: a fixed text before a pattern, and a pattern that may not follow
blanks before one that may. -/
def specificity : TokenForm → Nat
  | .text _ => 2
  | .lexeme _ immediate _ => if immediate then 1 else 0
  | .context => 0

end TokenForm

namespace Leaf

/-- What tells two tokens apart: fixed texts by content, lexemes by name. -/
def key : Leaf → Bool × String
  | .rule name => (false, name)
  | .text content => (true, content)
  | .lexeme token => (false, token.name)

def isToken : Leaf → Bool
  | .rule _ => false
  | .text _ | .lexeme _ => true

def form : Leaf → TokenForm
  | .text content => .text content
  | .lexeme token =>
      .lexeme (PatternMatcher.ofPattern token.pattern) token.immediate token.precedence
  | .rule _ => .context

/-- What shows of a token that is not a rule by itself. -/
def info : Leaf → SymbolInfo
  | .text content => { rule := content, name := content, visible := true, named := false }
  | .lexeme token =>
      { rule := token.name, name := token.name, visible := token.shown, named := false }
  | .rule name => { rule := name, name, visible := !name.startsWith "_", named := true }

end Leaf

/-- The tokens that the rules of a grammar mention, each once, in order, with
the number of mentions. -/
structure TokenList where
  tokens : Array (Leaf × Nat) := #[]
  places : Std.HashMap (Bool × String) Nat := {}

namespace TokenList

/-- Counts the leaf if it is a token. -/
def mention (list : TokenList) (leaf : Leaf) : TokenList :=
  if leaf.isToken then
    match list.places[leaf.key]? with
    | some place =>
        { list with tokens := list.tokens.modify place fun (leaf, count) => (leaf, count + 1) }
    | none =>
        { tokens := list.tokens.push (leaf, 1)
          places := list.places.insert leaf.key list.tokens.size }
  else
    list

def ofGrammar (grammar : Ruleset) : TokenList :=
  grammar.rules.foldl (fun list (_, body) => body.leaves.foldl mention list) {}

/-- The place of the token that a rule consists of, if the rule is nothing but
one token that is mentioned nowhere else. -/
def soleToken? (list : TokenList) : Rule Leaf → Option Nat
  | .leaf leaf => do
      let place ← list.places[leaf.key]?
      let (_, count) ← list.tokens[place]?
      if leaf.isToken && count == 1 then some place else none
  | _ => none

end TokenList

/-- The numbered symbols of a grammar.  Number 0 is the end of the text, the
tokens come next, the phrases follow. -/
structure Vocabulary where
  symbols : Array SymbolInfo
  /-- The forms of the tokens, by number. -/
  forms : Array TokenForm
  /-- The numbers of rules, and of tokens that only the context recognises. -/
  byName : Std.HashMap String Nat
  /-- The numbers of tokens by key. -/
  byKey : Std.HashMap (Bool × String) Nat
  /-- How many tokens are mentioned before the word token. -/
  wordPlace : Nat
  deriving Inhabited

namespace Vocabulary

def number (vocabulary : Vocabulary) (leaf : Leaf) : Nat :=
  match leaf with
  | .rule name => vocabulary.byName.getD name 0
  | leaf => vocabulary.byKey.getD leaf.key 0

def form (vocabulary : Vocabulary) (token : Nat) : TokenForm :=
  vocabulary.forms.getD token .context

/-- The place of a token in the order in which the rules mention tokens. -/
def mention (vocabulary : Vocabulary) (token : Nat) : Nat :=
  if token = 1 then vocabulary.wordPlace
  else if token < vocabulary.wordPlace + 2 then token - 2
  else token - 1

end Vocabulary

namespace Ruleset

/-- Whether nodes of the rule show in the tree. -/
def shows (grammar : Ruleset) (rule : String) : Bool :=
  !rule.startsWith "_" && !grammar.groups.contains rule

def ruleInfo (grammar : Ruleset) (rule : String) : SymbolInfo :=
  { rule, name := rule, visible := grammar.shows rule, named := true }

/-- Numbers the symbols: the end of the text, the word token, the other tokens
in order of first mention, the tokens that only the context recognises, and
the phrases in order of their rules. -/
def vocabulary (grammar : Ruleset) : Vocabulary := Id.run do
  let list := TokenList.ofGrammar grammar
  let ruleTokens := grammar.rules.filterMap fun (name, body) =>
    (list.soleToken? body).map ((name, ·))
  let wordPlace := (ruleTokens.lookup grammar.word).getD 0
  let numberOf (place : Nat) : Nat :=
    if place = wordPlace then 1 else if place < wordPlace then place + 2 else place + 1
  let finish : SymbolInfo := { rule := "end", name := "end", visible := false, named := true }
  let mut symbols : Array SymbolInfo := Array.replicate (list.tokens.size + 1) finish
  let mut forms : Array TokenForm := Array.replicate (list.tokens.size + 1) .context
  let mut byName : Std.HashMap String Nat := {}
  let mut byKey : Std.HashMap (Bool × String) Nat := {}
  for place in [0:list.tokens.size], (leaf, _) in list.tokens do
    symbols := symbols.setIfInBounds (numberOf place) leaf.info
    forms := forms.setIfInBounds (numberOf place) leaf.form
    byKey := byKey.insert leaf.key (numberOf place)
  for (name, place) in ruleTokens do
    symbols := symbols.setIfInBounds (numberOf place) (grammar.ruleInfo name)
    byName := byName.insert name (numberOf place)
  for (_, leaf) in grammar.contextTokens do
    if let .rule name := leaf then
      if !grammar.rules.any (·.1 == name) then
        byName := byName.insert name symbols.size
        symbols := symbols.push (grammar.ruleInfo name)
        forms := forms.push .context
  for (name, _) in grammar.rules do
    if !ruleTokens.any (·.1 == name) then
      byName := byName.insert name symbols.size
      symbols := symbols.push (grammar.ruleInfo name)
  return { symbols, forms, byName, byKey, wordPlace }

end Ruleset

/-- The productions of one phrase. -/
structure Phrase where
  head : Nat
  readings : List Reading
  deriving Inhabited

/-- Replaces inlined symbols by their readings.  The alias and the field of a
replaced step pass on to all that stands for it, its rank to the last step
that has none of its own. -/
def inlineSteps (bodies : Std.HashMap Nat (List Reading)) :
    (fuel : Nat) → List Step → List Reading
  | _, [] => [⟨[], 0⟩]
  | 0, steps => [⟨steps, 0⟩]
  | fuel + 1, step :: steps =>
      match bodies[step.symbol]? with
      | none =>
          (inlineSteps bodies fuel steps).map fun rest =>
            { rest with steps := step :: rest.steps }
      | some readings =>
          readings.flatMap fun reading =>
            let marked := reading.steps.map fun inner => { inner with
              label := step.label.orElse fun _ => inner.label
              field := step.field.orElse fun _ => inner.field }
            let ranked := Reading.modifyLast (fun last => { last with
              precedence :=
                if last.precedence == .none then step.precedence else last.precedence
              associativity := last.associativity.orElse fun _ => step.associativity })
              { reading with steps := marked }
            (inlineSteps bodies fuel (ranked.steps ++ steps)).map fun rest =>
              { rest with dynamic := Reading.strongerDynamic ranked.dynamic rest.dynamic }

/-- The symbols of a grammar and the productions of its phrases. -/
structure Productions where
  vocabulary : Vocabulary
  phrases : Array Phrase
  deriving Inhabited

/-- The alias that a symbol carries wherever it stands, if it never stands
without one: the most frequent one, the first on a tie. -/
def defaultAlias? (aliases : List (Option Alias)) : Option Alias :=
  if aliases.any Option.isNone then
    none
  else
    let candidates := aliases.filterMap id
    candidates.foldl (fun best label =>
      match best with
      | none => some label
      | some chosen =>
          if candidates.count chosen < candidates.count label then some label else best) none

namespace Ruleset

/-- The productions of a grammar. -/
def productions (grammar : Ruleset) : Productions := Id.run do
  let vocabulary := grammar.vocabulary
  let mut repetitions : Repetitions :=
    { next := vocabulary.symbols.size, known := [], added := #[] }
  let mut bodies : Array (Nat × Rule Nat) := #[]
  for (name, body) in grammar.rules do
    let head := vocabulary.byName.getD name 0
    if vocabulary.forms.size ≤ head then
      let (expanded, later) :=
        (Rule.expand name (body.mapLeaves vocabulary.number)).run repetitions
      repetitions := later
      bodies := bodies.push (head, expanded)
  let mut symbols := vocabulary.symbols
  for (name, body) in repetitions.added do
    bodies := bodies.push (symbols.size, body)
    symbols := symbols.push
      { rule := name, name, visible := false, named := false, auxiliary := true }
  let flat := bodies.map fun (head, body) =>
    (head, Rule.readings { symbol := 0 } true body)
  let inlined := grammar.inlined.map fun name => vocabulary.byName.getD name 0
  -- Symbols that always carry an alias show by it.
  let mut aliases : Std.HashMap Nat (List (Option Alias)) := {}
  for (_, readings) in flat do
    for reading in readings do
      for step in reading.steps do
        if !inlined.contains step.symbol then
          aliases := aliases.insert step.symbol (step.label :: aliases.getD step.symbol [])
  let extras := grammar.extras.map fun name => vocabulary.byName.getD name 0
  for (symbol, uses) in aliases.toList do
    if !extras.contains symbol then
      if let some label := defaultAlias? uses.reverse then
        symbols := symbols.modify symbol fun info =>
          { info with name := label.name, named := label.named, visible := true }
  let inlinedBodies := flat.foldl (fun found (head, readings) =>
    if inlined.contains head then found.insert head readings else found)
    (∅ : Std.HashMap Nat (List Reading))
  let phrases := (flat.filter fun (head, _) => !inlined.contains head).map
    fun (head, readings) =>
      { head
        readings := readings.flatMap fun reading =>
          (inlineSteps inlinedBodies 100 reading.steps).map fun inner =>
            { inner with dynamic := Reading.strongerDynamic reading.dynamic inner.dynamic } :
        Phrase }
  return { vocabulary := { vocabulary with symbols }, phrases }

end Ruleset

end EnvAudit.Grammar
