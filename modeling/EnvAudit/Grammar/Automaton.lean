import Std.Data.HashSet
import EnvAudit.Grammar.Joining
import EnvAudit.Grammar.Overlap

/-!
# The automaton of a grammar

An `Automaton` says in every state what is to be done on a token and which
state is behind a symbol.  State 0 is the one in which faulty text is read,
state 1 the one before the first token.  All other states are groups of joined
fine states.  States in which much the same tokens are looked for share the
set of tokens that are `sought`: what is found may not be valid, but it never
hides a valid token.
-/

namespace EnvAudit.Grammar

/-- What can be done after a part of a text has been read. -/
structure State where
  entries : List Entry
  /-- The states behind the symbols, 0 where a symbol cannot come next. -/
  targets : Array Nat
  /-- The tokens that may come next. -/
  valid : TokenSet
  /-- The tokens that are looked for in the text. -/
  sought : TokenSet := ∅
  deriving Inhabited

structure Automaton where
  tables : Tables
  states : Array State
  /-- All that can be done on tokens, by number. -/
  actions : Array (List Action)
  deriving Inhabited

namespace State

/-- The phrase that is closed over a single part on every token, if closing it
leaves no trace. -/
def unitPhrase? (tables : Tables) (actions : Array (List Action)) (state : State) :
    Option Nat :=
  let leavesNone (reduction : Reduction) : Bool :=
    let shape := tables.shapes.getD reduction.shape default
    reduction.count = 1 && reduction.dynamic = 0 && shape.aliases.all Option.isNone &&
      shape.fields.all Option.isNone && shape.passing.all Option.isNone &&
      tables.traceless.contains reduction.head
  let head? (action : Action) : Option Nat :=
    match action with
    | .reduce reduction => if leavesNone reduction then some reduction.head else none
    | _ => none
  let all := state.entries.flatMap fun entry => actions.getD entry.actions []
  match all.filter (· != .skip) with
  | [] => none
  | action :: others =>
      (head? action).filter fun head => others.all fun other => head? other == some head

/-- The first state from `target` on in which more is done than closing a
phrase without trace. -/
def passUnits (units : Array (Option Nat)) (targets : Array Nat) : (fuel target : Nat) → Nat
  | 0, target => target
  | fuel + 1, target =>
      match units.getD target none with
      | none => target
      | some phrase => passUnits units targets fuel (targets.getD phrase target)

/-- Passes over the states in which only a phrase without trace is closed. -/
def shorten (units : Array (Option Nat)) (state : State) : State :=
  { state with targets := state.targets.map (passUnits units state.targets 64) }

end State

/-- What decides which tokens may be looked for together. -/
structure Mixing where
  tables : Tables
  /-- Tokens that texts or patterns describe. -/
  plain : TokenSet
  overlaps : Overlaps
  /-- For each token, the tokens that are valid together with it somewhere. -/
  together : Array TokenSet

namespace Mixing

/-- For each token, the tokens that are valid together with it in some fine
state. -/
def togetherIn (tokenCount : Nat) (fine : FineStates) : Array TokenSet :=
  let distinct : Std.HashSet TokenSet :=
    fine.states.foldl (fun sets state => sets.insert state.valid) ∅
  distinct.fold (fun together valid => valid.toList.foldl (fun together token =>
    together.modify token (· ∪ valid)) together) (Array.replicate tokenCount ∅)

def ofFine (tables : Tables) (fine : FineStates) : Mixing where
  tables := tables
  plain := TokenSet.ofList ((List.range tables.tokenCount).filter fun token =>
    !(tables.vocabulary.form token).isContext)
  overlaps := tables.overlaps
  together := togetherIn tables.tokenCount fine

/-- Plain tokens that are found for certain wherever they stand. -/
def certain (mixing : Mixing) : TokenSet :=
  TokenSet.ofList (mixing.plain.toList.filter fun token =>
    (mixing.overlaps.outlasts.getD token ∅ \ mixing.together.getD token ∅).isEmpty)

/-- The tokens that are looked for in the midst of faulty text: all but those
that could hide one that is found for certain. -/
def sturdy (mixing : Mixing) : TokenSet :=
  let { tables, overlaps, together, .. } := mixing
  let certain := mixing.certain
  TokenSet.ofList ((List.range tables.tokenCount).filter fun token =>
    certain.contains token || tables.keywords.contains token || token = tables.word ||
      !(overlaps.conflicts.getD token ∅ \ together.getD token ∅).meets certain)

/-- Keywords are looked for as words. -/
def asWords (tables : Tables) (tokens : TokenSet) : TokenSet :=
  if tokens.meets tables.keywords then (tokens \ tables.keywords).insert tables.word else tokens

/-- The tokens besides which each token may not be looked for. -/
def apart (mixing : Mixing) : Array TokenSet :=
  let { tables, overlaps, together, .. } := mixing
  let met := (List.range tables.tokenCount).foldl (fun met token =>
    (overlaps.meeting.getD token ∅).toList.foldl (fun met other =>
      met.modify other (·.insert token)) met) overlaps.meeting
  (Array.range tables.tokenCount).map fun token =>
    overlaps.conflicts.getD token ∅ ∪ overlaps.begins.getD token ∅ ∪
      (met.getD token ∅ \ together.getD token ∅)

/-- Whether two sets of tokens may become one. -/
def mayMix (apart : Array TokenSet) (first second : TokenSet) : Bool :=
  let fits (new others : TokenSet) : Bool :=
    new.toList.all fun token => !(apart.getD token ∅).meets others
  fits (first \ second) second && fits (second \ first) first

/-- The sets of tokens that are looked for, from which each given set takes the
first that it may become one with. -/
def mix (apart : Array TokenSet) (tokenSets : List TokenSet) :
    Array TokenSet × Std.HashMap TokenSet Nat :=
  tokenSets.foldl (fun (mixed, places) tokens =>
    if places.contains tokens then
      (mixed, places)
    else
      match mixed.findIdx? (mayMix apart · tokens) with
      | some i => (mixed.modify i (· ∪ tokens), places.insert tokens i)
      | none => (mixed.push tokens, places.insert tokens mixed.size)) (#[], ∅)

end Mixing

namespace Automaton

/-- The symbols that may come next in a state. -/
def breadth (tables : Tables) (state : State) : Nat :=
  let phrases := (List.range' tables.tokenCount (tables.whole - tables.tokenCount)).countP
    fun phrase => state.targets.getD phrase 0 != 0
  state.valid.toList.length + phrases

/-- The numbers of the states that are behind some symbol, those of the
broadest states first. -/
def byBreadth (tables : Tables) (states : Array State) : List Nat :=
  let used := states.foldl (fun used state =>
    state.targets.foldl (·.setIfInBounds · true) used) (Array.replicate states.size false)
  let numbers := (List.range states.size).filter fun number =>
    2 ≤ number && used.getD number false
  let ranked := numbers.map fun number => (breadth tables (states.getD number default), number)
  (ranked.mergeSort fun first second => second.1 ≤ first.1).map (·.2)

/-- Finds the tokens that are looked for in each state. -/
def withSought (mixing : Mixing) (states : Array State) : Array State :=
  let tables := mixing.tables
  let needed (state : State) : TokenSet :=
    Mixing.asWords tables (state.valid ∩ mixing.plain.insert 0)
  let order := 0 :: 1 :: byBreadth tables states
  let (mixed, places) := Mixing.mix mixing.apart
    (order.map fun number => needed (states.getD number default))
  states.map fun state =>
    { state with sought := (places[needed state]?.bind (mixed[·]?)).getD ∅ }

/-- The state that a group of fine states becomes.  Group `n` becomes state
`n + 1`. -/
def stateOf (tables : Tables) (task : JoinTask) (groups : Groups) (members : Array Nat) : State :=
  let joint := task.jointOf groups members
  let exits := task.exitsOf members
  { entries := joint.entries
    valid := joint.valid
    targets := exits.size.fold (fun i _ targets =>
      match joint.behind.getD i none with
      | some group => targets.setIfInBounds exits[i].symbol (group + 1)
      | none => targets) (Array.replicate tables.whole 0) }

def ofTables (tables : Tables) : Automaton :=
  let fine := tables.fineStates
  let mixing := Mixing.ofFine tables fine
  let task : JoinTask :=
    { fine
      tokenCount := tables.tokenCount
      conflicts := mixing.overlaps.conflicts.mapIdx fun token conflicts =>
        if token = tables.word then conflicts \ tables.keywords
        else if tables.keywords.contains token then conflicts \ .single tables.word
        else conflicts
      exclusive := TokenSet.ofList (tables.contextTokens.map (·.2)) }
  let groups := task.groups
  let faulty : State :=
    { entries := [], targets := Array.replicate tables.whole 0, valid := mixing.sturdy }
  let states := #[faulty] ++ groups.members.map (stateOf tables task groups)
  let units := states.map (State.unitPhrase? tables fine.actions)
  { tables
    states := withSought mixing (states.map (State.shorten units))
    actions := fine.actions }

def ofGrammar (grammar : Ruleset) : Automaton :=
  ofTables (Tables.ofGrammar grammar)

/-- The state in which faulty text is read. -/
def faulty : Nat := 0

/-- The state before the first token. -/
def initial : Nat := 1

def state (automaton : Automaton) (number : Nat) : State :=
  automaton.states.getD number default

/-- Whether a token may come next. -/
def allows (automaton : Automaton) (number token : Nat) : Bool :=
  (automaton.state number).valid.contains token

/-- The state behind a symbol, the faulty one if the symbol cannot come
next. -/
def behind (automaton : Automaton) (number symbol : Nat) : Nat :=
  (automaton.state number).targets.getD symbol faulty

/-- What can be done on a token.  Where faulty text is read, nothing but extras
fits. -/
def actionsOn (automaton : Automaton) (number token : Nat) : List Action :=
  if number = faulty then
    if automaton.tables.extras.contains token then [.skip] else []
  else
    match (automaton.state number).entries.find? (·.tokens.contains token) with
    | some entry => automaton.actions.getD entry.actions []
    | none => []

/-- The state behind a token; the faulty one if the token is not taken in the
end. -/
def afterToken (automaton : Automaton) (number token : Nat) : Nat :=
  match (automaton.actionsOn number token).getLast? with
  | some (.shift _) => automaton.behind number token
  | some .skip => number
  | _ => faulty

end Automaton

end EnvAudit.Grammar
