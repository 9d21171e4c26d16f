import EnvAudit.Grammar.Choice

/-!
# Fine states

A fine state says what is possible after a part of a text has been read: the
places that the reading may be in, each with the tokens that may follow its
phrase.  Fine states with the same places have the same `Core`, from which
follows, for all of them at once, what may come next.
-/

namespace EnvAudit.Grammar

/-- The tokens that may follow a phrase, given those that may follow the
phrases of a kernel. -/
structure Flow where
  /-- Tokens that may follow in any case. -/
  constant : TokenSet := ∅
  /-- The phrases of the kernel that may end with the phrase. -/
  sources : List Nat := []
  deriving Inhabited

namespace Flow

def join (first second : Flow) : Flow where
  constant := first.constant ∪ second.constant
  sources := first.sources ++ second.sources.filter (!first.sources.contains ·)

/-- The tokens that follow if the given ones follow the phrases of the
kernel. -/
def value (lookaheads : Array TokenSet) (flow : Flow) : TokenSet :=
  match flow.sources with
  | [] => flow.constant
  | source :: sources =>
      let tokens := sources.foldl (fun tokens source => tokens ∪ lookaheads.getD source ∅)
        (lookaheads.getD source ∅)
      if flow.constant.isEmpty then tokens else flow.constant ∪ tokens

end Flow

/-- A place of a phrase, with the tokens that may follow the phrase. -/
structure Arrival where
  place : Nat
  flow : Flow
  deriving Inhabited

/-- Adds an arrival to a list that is sorted by place. -/
def Arrival.insert (arrivals : Array Arrival) (arrival : Arrival) : Array Arrival :=
  match arrivals.findIdx? (arrival.place ≤ ·.place) with
  | none => arrivals.push arrival
  | some i =>
      let known := arrivals.getD i default
      if known.place = arrival.place then
        arrivals.set! i { known with flow := known.flow.join arrival.flow }
      else
        arrivals.insertIdxIfInBounds i arrival

/-- What is behind a symbol. -/
structure Exit where
  symbol : Nat
  /-- The number of the core behind the symbol. -/
  core : Nat
  /-- The tokens that may follow the phrases of that core. -/
  flows : Array Flow
  deriving Inhabited

/-- What fine states with the same places have in common. -/
structure Core where
  /-- The places of begun phrases, in order. -/
  places : Array Nat
  /-- The symbols that may come next. -/
  exits : Array Exit := #[]
  /-- The places at which phrases may end. -/
  finished : Array Arrival := #[]
  /-- The tokens that may be taken. -/
  shifts : TokenSet := ∅
  deriving Inhabited

namespace Core

/-- The first places of the phrases that may begin where the kernel stands. -/
def begun (tables : Tables) (places : Array Nat) : Array Arrival := Id.run do
  let mut flows : Array Flow := Array.replicate (tables.whole + 1) {}
  let mut seen : Array Bool := Array.replicate (tables.whole + 1) false
  let mut phrases : Array Nat := #[]
  for source in [0:places.size] do
    for (symbol, target) in (tables.place (places.getD source 0)).edges do
      if tables.tokenCount ≤ symbol then
        let after : Flow :=
          { constant := tables.nextTokens.getD target ∅
            sources := if (tables.place target).completions.isEmpty then [] else [source] }
        for beginning in tables.beginnings.getD symbol #[] do
          let within : Flow := { constant := beginning.following }
          let flow := if beginning.ends then within.join after else within
          flows := flows.modify beginning.phrase (·.join flow)
          if !seen.getD beginning.phrase false then
            seen := seen.setIfInBounds beginning.phrase true
            phrases := phrases.push beginning.phrase
  return phrases.map fun phrase => ⟨tables.roots.getD phrase 0, flows.getD phrase {}⟩

/-- Whether one finished place comes before another: shorter phrases first. -/
def finishesBefore (tables : Tables) (first second : Arrival) : Bool :=
  let a := tables.place first.place
  let b := tables.place second.place
  a.depth < b.depth || (a.depth = b.depth && (a.head < b.head ||
    (a.head = b.head && first.place < second.place)))

/-- The places behind each symbol that may come next, and the places at which
phrases may end. -/
def outlook (tables : Tables) (places : Array Nat) :
    Array (Array Arrival) × Array Arrival := Id.run do
  let kernel : Array Arrival := places.mapIdx fun source place => ⟨place, { sources := [source] }⟩
  let mut behind : Array (Array Arrival) := Array.replicate (tables.whole + 1) #[]
  let mut finished : Array Arrival := #[]
  for arrival in kernel ++ begun tables places do
    let place := tables.place arrival.place
    for (symbol, target) in place.edges do
      behind := behind.modify symbol (Arrival.insert · ⟨target, arrival.flow⟩)
    if !place.completions.isEmpty then
      finished := finished.push arrival
  return (behind, (finished.toList.mergeSort (finishesBefore tables)).toArray)

end Core

/-- Tokens on which the same can be done. -/
structure Entry where
  tokens : TokenSet
  /-- The number of what can be done. -/
  actions : Nat
  deriving Inhabited

namespace Entry

/-- Adds an entry to a list in which no actions occur twice. -/
def insert : List Entry → Entry → List Entry
  | [], entry => [entry]
  | known :: entries, entry =>
      if known.actions = entry.actions then
        { known with tokens := known.tokens ∪ entry.tokens } :: entries
      else
        known :: insert entries entry

end Entry

structure FineState where
  core : Nat
  /-- The tokens that may follow the phrases of the core. -/
  lookaheads : Array TokenSet
  /-- The fine states behind the exits of the core. -/
  targets : Array Nat := #[]
  entries : List Entry := []
  /-- The tokens that may come next. -/
  valid : TokenSet := ∅
  /-- The tokens that are taken in the end. -/
  taken : TokenSet := ∅
  deriving Inhabited

/-- A fine state as it is looked up. -/
structure FineKey where
  core : Nat
  lookaheads : Array TokenSet
  deriving BEq

instance : Hashable FineKey where
  hash key := key.lookaheads.foldl (fun mixed tokens => mixHash mixed (hash tokens))
    key.core.toUInt64

/-- The fine states that have been found. -/
structure FineStates where
  cores : Array Core := #[]
  coreNumbers : Std.HashMap (List Nat) Nat := {}
  states : Array FineState := #[]
  stateNumbers : Std.HashMap FineKey Nat := {}
  /-- All that can be done on tokens, by number. -/
  actions : Array (List Action) := #[]
  actionNumbers : Std.HashMap (List Action) Nat := {}
  /-- What has been decided in a core on a token, given the finished places
  that the token may follow. -/
  decisions : Std.HashMap (Nat × Nat × List Nat) Nat := {}
  deriving Inhabited

namespace FineStates

def core (found : FineStates) (number : Nat) : Core :=
  found.cores.getD number default

def state (found : FineStates) (number : Nat) : FineState :=
  found.states.getD number default

/-- The number of the core with the given places. -/
def coreNumber (places : Array Nat) : StateM FineStates Nat :=
  modifyGet fun found =>
    match found.coreNumbers[places.toList]? with
    | some number => (number, found)
    | none =>
        let number := found.cores.size
        (number, { found with
          cores := found.cores.push { places }
          coreNumbers := found.coreNumbers.insert places.toList number })

/-- The number of the state with the given core and lookaheads. -/
def stateNumber (core : Nat) (lookaheads : Array TokenSet) : StateM FineStates Nat :=
  modifyGet fun found =>
    let key : FineKey := ⟨core, lookaheads⟩
    match found.stateNumbers[key]? with
    | some number => (number, found)
    | none =>
        let number := found.states.size
        (number, { found with
          states := found.states.push { core, lookaheads }
          stateNumbers := found.stateNumbers.insert key number })

/-- The number of what can be done. -/
def actionsNumber (actions : List Action) : StateM FineStates Nat :=
  modifyGet fun found =>
    match found.actionNumbers[actions]? with
    | some number => (number, found)
    | none =>
        let number := found.actions.size
        (number, { found with
          actions := found.actions.push actions
          actionNumbers := found.actionNumbers.insert actions number })

/-- Finds what the states of a core have in common.  The symbols are given in
the order in which what is behind them is numbered. -/
def expand (tables : Tables) (order : Array Nat) (number : Nat) : StateM FineStates Core := do
  let core := (← get).core number
  if !core.exits.isEmpty || !core.finished.isEmpty then
    return core
  let (behind, finished) := Core.outlook tables core.places
  let mut exits : Array Exit := #[]
  let mut shifts : TokenSet := ∅
  for symbol in order do
    let arrivals := behind.getD symbol #[]
    if !arrivals.isEmpty then
      let target ← coreNumber (arrivals.map (·.place))
      exits := exits.push ⟨symbol, target, arrivals.map (·.flow)⟩
      if symbol < tables.tokenCount then
        shifts := shifts.insert symbol
  let core := { core with exits, finished, shifts }
  modify fun found => { found with cores := found.cores.setIfInBounds number core }
  return core

/-- What is done in a core on a token that may follow the phrases that end at
the given places. -/
def decide (tables : Tables) (number : Nat) (core : Core) (token : Nat) (ended : List Nat) :
    StateM FineStates Nat := do
  match (← get).decisions[(number, token, ended)]? with
  | some actions => return actions
  | none =>
      let choice := ReductionChoice.ofPlaces tables ended
      let actions ← actionsNumber <|
        if core.shifts.contains token then
          choice.orShift tables core.places.toList ended token
        else
          choice.actions
      modify fun found =>
        { found with decisions := found.decisions.insert (number, token, ended) actions }
      return actions

/-- What can be done on each token in a state of a core. -/
def entriesOf (tables : Tables) (number : Nat) (core : Core) (lookaheads : Array TokenSet) :
    StateM FineStates (List Entry) := do
  let finished := core.finished.map fun arrival =>
    (arrival.place, arrival.flow.value lookaheads)
  -- Tokens before which some phrase may end, and those for which there is a choice.
  let (ends, contested) := finished.foldl (fun (ends, contested) (_, tokens) =>
    (ends ∪ tokens, contested ∪ (ends ∩ tokens))) ((∅, ∅) : TokenSet × TokenSet)
  let contested := contested ∪ (ends ∩ core.shifts)
  let mut entries : List Entry := []
  let shifts := core.shifts \ contested
  if !shifts.isEmpty then
    entries := ⟨shifts, ← actionsNumber [.shift false]⟩ :: entries
  for (place, tokens) in finished do
    let tokens := tokens \ contested
    if !tokens.isEmpty then
      let choice := ReductionChoice.ofPlaces tables [place]
      entries := Entry.insert entries ⟨tokens, ← actionsNumber choice.actions⟩
  for token in contested.toList do
    let ended := finished.toList.filterMap fun (place, tokens) =>
      if tokens.contains token then some place else none
    entries := Entry.insert entries ⟨.single token, ← decide tables number core token ended⟩
  let skipped := tables.extras \ (core.shifts ∪ ends)
  if !skipped.isEmpty then
    entries := ⟨skipped, ← actionsNumber [.skip]⟩ :: entries
  return entries

/-- Finds what is behind a state and what can be done in it. -/
def explore (tables : Tables) (order : Array Nat) (number : Nat) : StateM FineStates Unit := do
  let state := (← get).state number
  let core ← expand tables order state.core
  let mut targets : Array Nat := Array.emptyWithCapacity core.exits.size
  for exit in core.exits do
    targets := targets.push (← stateNumber exit.core (exit.flows.map (·.value state.lookaheads)))
  let entries ← entriesOf tables state.core core state.lookaheads
  let actions := (← get).actions
  let takes (entry : Entry) : Bool :=
    match (actions.getD entry.actions []).getLast? with
    | some (.shift _) => true
    | _ => false
  let union (entries : List Entry) : TokenSet :=
    entries.foldl (fun tokens entry => tokens ∪ entry.tokens) ∅
  let explored :=
    { state with targets, entries, valid := union entries, taken := union (entries.filter takes) }
  modify fun found => { found with states := found.states.setIfInBounds number explored }

/-- Explores all states from the given one on, at most `fuel` of them. -/
def exploreFrom (tables : Tables) (order : Array Nat) :
    (fuel number : Nat) → StateM FineStates Unit
  | 0, _ => return ()
  | fuel + 1, number => do
      if number < (← get).states.size then
        explore tables order number
        exploreFrom tables order fuel (number + 1)

/-- More than a grammar has fine states. -/
def maxCount : Nat := 1000000

end FineStates

namespace Tables

/-- The symbols in the order in which states behind them are numbered: tokens
that only the context recognises, other tokens in order of mention, phrases. -/
def symbolOrder (tables : Tables) : Array Nat :=
  let count := tables.tokenCount
  let isContext (token : Nat) : Bool := (tables.vocabulary.form token).isContext
  let tokens := (List.range count).drop 1
  let mentioned := (tokens.filter (!isContext ·)).mergeSort fun first second =>
    tables.vocabulary.mention first ≤ tables.vocabulary.mention second
  (tokens.filter isContext ++ mentioned ++
    List.range' count (tables.whole + 1 - count)).toArray

/-- All fine states.  The first one is the state before the first token. -/
def fineStates (tables : Tables) : FineStates :=
  let search : StateM FineStates Unit := do
    let core ← FineStates.coreNumber #[tables.goal]
    discard <| FineStates.stateNumber core #[.single 0]
    FineStates.exploreFrom tables tables.symbolOrder FineStates.maxCount 0
  (search.run {}).2

end Tables

end EnvAudit.Grammar
