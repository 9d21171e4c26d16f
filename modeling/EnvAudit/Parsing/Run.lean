import EnvAudit.Parsing.Token
import EnvAudit.Parsing.Stack

/-!
# Reading a text

A `Run` reads a text token by token along all branches.  A token that does not
fit pauses its branch.  When no branch is left that is not paused, the best
one is repaired: a missing token is made up, or text is skipped until a token
fits a state that was passed before.
-/

namespace EnvAudit.Grammar

/-- What is read, and by which grammar. -/
structure Task where
  automaton : Automaton
  source : Source

def Task.tables (task : Task) : Tables :=
  task.automaton.tables

/-- The progress of a reading. -/
structure Run where
  graph : StackGraph := {}
  /-- The best tree of the whole text so far. -/
  finished : Option Subtree := none
  /-- How often the text has been read to its end. -/
  accepted : Nat := 0

abbrev RunM := ReaderT Task (StateM Run)

namespace Run

@[inline]
def modifyGraph (change : StackGraph → StackGraph) : RunM Unit :=
  modify fun ⟨graph, finished, accepted⟩ => ⟨change graph, finished, accepted⟩

def branchCount : RunM Nat :=
  return (← get).graph.count

def stateOf (branch : Nat) : RunM Nat :=
  return (← get).graph.state branch

def push (branch : Nat) (part : Option Subtree) (state : Nat) : RunM Unit := do
  let tables := (← read).tables
  modifyGraph fun graph => graph.push tables branch part state

def pop (branch depth : Nat) : RunM (Array StackGraph.Slice) :=
  modifyGet fun ⟨graph, finished, accepted⟩ =>
    let (graph, slices) := graph.pop branch depth
    (slices, ⟨graph, finished, accepted⟩)

/-- Joins two branches and tells whether that was possible. -/
def join (first second : Nat) : RunM Bool := do
  let tables := (← read).tables
  match (← get).graph.join? tables first second with
  | some graph =>
      modifyGraph fun _ => graph
      return true
  | none => return false

def node (place symbol : Nat) (children : List Subtree) (shape : Nat) (extra : Bool := false) :
    RunM Subtree := do
  let { automaton, source } ← read
  let tables := automaton.tables
  return Subtree.node tables source place symbol children shape extra

/-! ## Tokens -/

/-- The token at byte `i` that is looked for in a state.  An empty token of the
context is passed over where it could be found for ever. -/
def lexAt (state : Nat) (hasAdvanced : Bool) (i : Nat) : RunM (Option Found) := do
  let { automaton, source } ← read
  let tables := automaton.tables
  let { valid, sought, .. } := automaton.state state
  match tables.contextToken source.text valid i with
  | some found =>
      let isExtra := match (automaton.actionsOn state found.token).getLast? with
        | some .skip => true
        | _ => false
      let isIdle := state = Automaton.faulty || !hasAdvanced || isExtra
      if found.stop ≤ i && isIdle then
        return tables.plainToken source.text sought i
      else
        return some found
  | none => return tables.plainToken source.text sought i

/-- Skips text from byte `i` on, where no token was found, until a token is
found.  What can be read as the beginning of a token is skipped at once.
Returns the end of the skipped text. -/
def skipUnknown : (fuel : Nat) → (i : Nat) → RunM Nat
  | 0, i => return i
  | fuel + 1, i => do
      let { automaton, source } ← read
      let text := source.text
      if text.utf8ByteSize ≤ i then
        return i
      else
        let sought := (automaton.state Automaton.faulty).sought
        let stuck := (automaton.tables.scan text sought i).stop
        let next := if i < stuck then stuck else i + (charAt text i).utf8Size
        match ← lexAt Automaton.faulty true next with
        | some _ => return next
        | none => skipUnknown fuel next

/-- The next token of a branch.  If none of those that are looked for in the
state is found, the token is looked for as in faulty text. -/
def nextToken (branch state : Nat) : RunM Subtree := do
  let { automaton, source } ← read
  let tables := automaton.tables
  let graph := (← get).graph
  let position := graph.position branch
  let hasAdvanced := graph.hasAdvanced branch
  let found ← match ← lexAt state hasAdvanced position with
    | some found => pure (some found)
    | none => lexAt Automaton.faulty hasAdvanced position
  match found with
  | some found =>
      let keyword := tables.keyword? source.text found
      let symbol := (keyword.filter (automaton.allows state)).getD found.token
      return Subtree.leaf tables symbol position found.start found.stop keyword.isSome
  | none =>
      let sought := (automaton.state Automaton.faulty).sought
      let start := (tables.scan source.text sought position).start
      let stop ← skipUnknown (source.size + 1) start
      return Subtree.leaf tables tables.faultSymbol position start stop false

/-! ## Phrases -/

/-- The most branches that are followed at length. -/
def maxBranches : Nat := 6

/-- How many more branches may exist for a moment. -/
def branchOverflow : Nat := 4

/-- Slices that belong to one branch, side by side. -/
def groupSlices (slices : Array StackGraph.Slice) : List (Nat × List (List Subtree)) :=
  slices.toList.foldr (fun slice groups =>
    match groups with
    | (branch, parts) :: rest =>
        if branch = slice.branch then (branch, slice.parts :: parts) :: rest
        else (slice.branch, [slice.parts]) :: groups
    | [] => [(slice.branch, [slice.parts])]) []

/-- Closes a phrase of a branch.  Each way down the stack yields a new branch;
returns the first of them, if any is left after joining. -/
def reduce (branch : Nat) (reduction : Reduction) : RunM (Option Nat) := do
  let initialCount ← branchCount
  let slices ← pop branch reduction.count
  let graph := (← get).graph
  let halted := ((List.range graph.count).filter graph.isHalted).length
  let mut removed := 0
  for (number, alternatives) in groupSlices slices do
    let current := number - removed
    if maxBranches + branchOverflow + halted < current then
      modifyGraph fun graph => graph.remove current
      removed := removed + 1
    else
      let place := (← get).graph.position current
      let build (children : List Subtree) : RunM Subtree :=
        node place reduction.head children reduction.shape
      let mut best : Option (Subtree × List Subtree) := none
      for parts in alternatives do
        let (children, extras) := Subtree.splitTrailingExtras parts
        let candidate ← build children
        best := match best with
          | none => some (candidate, extras)
          | some (known, knownExtras) =>
              if known.better candidate then some (candidate, extras)
              else some (known, knownExtras)
      if let some (parent, extras) := best then
        let next := (← read).automaton.behind (← stateOf current) reduction.head
        push current (some (parent.addDynamic reduction.dynamic)) next
        for extra in extras do
          push current (some extra) next
        for other in [0:current] do
          if other != branch then
            if ← join other current then
              removed := removed + 1
              break
  return if initialCount < (← branchCount) then some initialCount else none

/-- Completes the reading of a branch whose text is at its end. -/
def accept (branch : Nat) (token : Subtree) : RunM Unit := do
  push branch (some token) Automaton.faulty
  let slices ← modifyGet fun (⟨graph, finished, accepted⟩ : Run) =>
    let (graph, slices) := graph.popAll branch
    (slices, (⟨graph, finished, accepted⟩ : Run))
  for slice in slices do
    let (after, before) := slice.parts.reverse.span (·.extra)
    let root ← match before with
      | tree :: rest =>
          node 0 tree.symbol (rest.reverse ++ tree.children ++ after.reverse) tree.info.shape
      | [] => node 0 (← read).tables.faultSymbol slice.parts 0
    modify fun run => { run with
      accepted := run.accepted + 1
      finished := match run.finished with
        | none => some root
        | some known => if known.better root then some root else some known }
  if let some slice := slices[0]? then
    modifyGraph fun graph => graph.remove slice.branch
  modifyGraph fun graph => graph.halt branch

/-! ## Comparing branches -/

/-- What speaks for and against a branch. -/
structure Standing where
  cost : Nat
  weight : Nat
  dynamic : Int
  /-- The branch is being repaired. -/
  inFault : Bool

inductive Preference where
  | takeFirst
  | preferFirst
  | none
  | preferSecond
  | takeSecond
  deriving BEq

/-- How much worse a branch may be before it is given up. -/
def maxCostDifference : Nat := 18 * faultCosts.skippedTree

def Standing.compare (first second : Standing) : Preference :=
  if !first.inFault && second.inFault then
    if first.cost < second.cost then .takeFirst else .preferFirst
  else if first.inFault && !second.inFault then
    if second.cost < first.cost then .takeSecond else .preferSecond
  else if first.cost < second.cost then
    if maxCostDifference < (second.cost - first.cost) * (1 + first.weight) then .takeFirst
    else .preferFirst
  else if second.cost < first.cost then
    if maxCostDifference < (first.cost - second.cost) * (1 + second.weight) then .takeSecond
    else .preferSecond
  else if second.dynamic < first.dynamic then
    .preferFirst
  else if first.dynamic < second.dynamic then
    .preferSecond
  else
    .none

def standing (graph : StackGraph) (branch : Nat) : Standing :=
  let paused := graph.isPaused branch
  { cost := graph.cost branch + (if paused then faultCosts.skippedTree else 0)
    weight := graph.weightSinceFault branch
    dynamic := graph.dynamic branch
    inFault := paused || graph.state branch = Automaton.faulty }

/-- Whether it is idle to go on with a branch at the given cost. -/
def betterExists (branch : Nat) (inFault : Bool) (cost : Nat) : RunM Bool := do
  let run ← get
  if (run.finished.map fun tree => decide (tree.cost ≤ cost)).getD false then
    return true
  else
    let graph := run.graph
    let own : Standing :=
      { cost, inFault, dynamic := graph.dynamic branch, weight := graph.weightSinceFault branch }
    return (List.range graph.count).any fun other =>
      other != branch && graph.isActive other &&
        graph.position branch ≤ graph.position other &&
        match own.compare (standing graph other) with
        | .takeSecond => true
        | .preferSecond => graph.canJoin other branch
        | _ => false

/-! ## Repairs -/

/-- All phrases that may be closed in a state on one of the tokens, and whether
one of the tokens is taken. -/
def possibleReductions (state : Nat) (tokens : List Nat) : RunM (List Reduction × Bool) := do
  let automaton := (← read).automaton
  let actions := tokens.flatMap (automaton.actionsOn state)
  let reductions := actions.foldl (fun (found : Array Reduction) action =>
    match action with
    | .reduce reduction =>
        let known := found.any fun other =>
          other.head = reduction.head && other.count = reduction.count
        if 0 < reduction.count && !known then found.push reduction else found
    | _ => found) #[]
  -- Where faulty text is read, every token that is looked for is taken.
  let faultyTakes := state = Automaton.faulty && tokens.any (automaton.allows state)
  return (reductions.toList, actions.contains (.shift false) || faultyTakes)

/-- Closes all phrases that may be closed before one of the tokens, in all
ways.  Returns whether a branch has come of it that takes one of the tokens.
If `only` is set, branches that cannot go on are given up. -/
def reduceAll (start : Nat) (tokens : List Nat) (only : Bool) : RunM Bool := do
  let initialCount ← branchCount
  let mut canShift := false
  let mut branch := start
  for round in [0:1000] do
    let count ← branchCount
    if count ≤ branch then
      break
    let mut joined := false
    for other in [initialCount:branch] do
      if ← join other branch then
        joined := true
        break
    if joined then
      continue
    let (reductions, shifts) ← possibleReductions (← stateOf branch) tokens
    let mut last : Option Nat := none
    for reduction in reductions do
      last ← reduce branch reduction
    if shifts then
      canShift := true
    else if last.isSome && round < maxBranches then
      if let some source := last then
        modifyGraph fun graph => graph.renumber source branch
      continue
    else if only then
      modifyGraph fun graph => graph.remove branch
    branch := if branch = start then count else branch + 1
  return canShift

/-- Goes back to a state that was passed before, making all that was read since
faulty text.  Returns whether that was possible. -/
def fallBack (branch depth : Nat) (goal : Nat) : RunM Bool := do
  let tables := (← read).tables
  let slices ← pop branch depth
  let mut previous : Option Nat := none
  for slice in slices do
    if previous == some slice.branch then
      continue
    if (← stateOf slice.branch) != goal then
      modifyGraph fun graph => graph.halt slice.branch
      continue
    let faults ← modifyGet fun (⟨graph, finished, accepted⟩ : Run) =>
      let (graph, faults) := graph.popFault tables slice.branch
      (faults, (⟨graph, finished, accepted⟩ : Run))
    let earlier := (faults.head?.map (·.children)).getD []
    let (parts, extras) := Subtree.splitTrailingExtras (earlier ++ slice.parts)
    if !parts.isEmpty then
      let fault ← node 0 tables.faultSymbol parts 0 true
      push slice.branch (some fault) goal
    for extra in extras do
      push slice.branch (some extra) goal
    previous := some slice.branch
  return previous.isSome

/-- Falls back to the nearest state that takes the token, unless another branch
is better off. -/
def recoverBefore (branch : Nat) (token : Subtree) : RunM Bool := do
  let { automaton, source } ← read
  let tables := automaton.tables
  let graph := (← get).graph
  let previousCount := graph.count
  let position := graph.position branch
  let weight := graph.weightSinceFault branch
  let cost := graph.cost branch
  if token.isFault tables then
    return false
  for fallback in ((graph.branch branch).fallbacks).getD [] do
    if fallback.state = Automaton.faulty || fallback.position = position then
      continue
    let depth := if 0 < weight then fallback.depth + 1 else fallback.depth
    let wouldJoin := (List.range previousCount).any fun other =>
      graph.position other = position && graph.state other = fallback.state
    if wouldJoin then
      continue
    let newCost := cost + fallback.depth * faultCosts.skippedTree +
      (position - fallback.position) * faultCosts.skippedByte +
      (source.row position - source.row fallback.position) * faultCosts.skippedLine
    if ← betterExists branch false newCost then
      break
    if automaton.allows fallback.state token.symbol then
      if ← fallBack branch depth fallback.state then
        return true
  return false

/-- Removes the halted branches that were made after the first `count`. -/
def removeHaltedFrom (count : Nat) : RunM Unit :=
  modifyGraph fun graph =>
    let (old, new) := (graph.branches.toList.take count, graph.branches.toList.drop count)
    let kept := new.filter fun branch =>
      match branch.activity with
      | .active => true
      | _ => false
    { graph with branches := (old ++ kept).toArray }

/-- Reads a token in the midst of faulty text. -/
def recover (branch : Nat) (token : Subtree) : RunM Unit := do
  let { automaton, source } ← read
  let tables := automaton.tables
  let previousCount ← branchCount
  modifyGraph fun graph => graph.settleWeight branch
  let weight := (← get).graph.weightSinceFault branch
  let cost := (← get).graph.cost branch
  let recovered ← recoverBefore branch token
  removeHaltedFrom previousCount
  if token.symbol = 0 then
    -- What is left at the end of the text becomes one stretch of faulty text.
    let place := (← get).graph.position branch
    push branch (some (← node place tables.faultSymbol [] 0)) Automaton.faulty
    accept branch token
    return
  if recovered && maxBranches < (← branchCount) then
    modifyGraph fun graph => graph.halt branch
    return
  let newCost := cost + faultCosts.skippedTree + token.width * faultCosts.skippedByte +
    (source.row token.info.stop - source.row token.info.before) * faultCosts.skippedLine
  if ← betterExists branch false newCost then
    modifyGraph fun graph => graph.halt branch
    return
  let token := if tables.extras.contains token.symbol then token.setExtra true else token
  let mut run ← node 0 tables.faultRunSymbol [token] 0
  if 0 < weight then
    -- The token joins the faulty text before it.
    let slices ← pop branch 1
    if let some slice := slices[0]? then
      let count ← branchCount
      for _ in [slice.branch + 1:count] do
        modifyGraph fun graph => graph.remove (slice.branch + 1)
      modifyGraph fun graph => graph.renumber slice.branch branch
      run ← node 0 tables.faultRunSymbol (slice.parts ++ [run]) 0
  push branch (some run) Automaton.faulty

/-- Begins to repair a branch that has met a fault. -/
def handleFault (branch : Nat) (token : Subtree) : RunM Unit := do
  let automaton := (← read).automaton
  let tables := automaton.tables
  let allTokens := (List.range tables.tokenCount).drop 1
  let previousCount ← branchCount
  discard <| reduceAll branch allTokens false
  let count ← branchCount
  let position := (← get).graph.position branch
  let mut inserted := false
  for current in branch :: (List.range' previousCount (count - previousCount)) do
    if !inserted then
      let state ← stateOf current
      for missing in allTokens do
        if !inserted && state != Automaton.faulty then
          let next := automaton.afterToken state missing
          if next != Automaton.faulty && next != state then
            let reduces := match automaton.actionsOn next token.symbol with
              | .reduce _ :: _ => true
              | _ => false
            if reduces then
              modifyGraph fun graph => graph.copy current
              let repaired := (← branchCount) - 1
              push repaired (some (Subtree.missing tables missing position)) next
              -- At the end of the text, any token counts as the next one.
              let atEnd := token.symbol = 0
              let expected := if atEnd then allTokens else [token.symbol]
              if ← reduceAll repaired expected (!atEnd) then
                inserted := true
    push current none Automaton.faulty
  for _ in [previousCount:count] do
    discard <| join branch previousCount
  modifyGraph fun graph =>
    let fallbacks := graph.findFallbacks branch
    { graph with branches := graph.branches.modify branch fun branch =>
        { branch with fallbacks := some fallbacks } }
  recover branch token

/-! ## The loop -/

/-- Does what can be done on a token.  Returns whether the token is dealt with,
whether a phrase was closed, and the last branch that came of that. -/
def perform (branch : Nat) (state : Nat) (token : Subtree) :
    List Action → (reduced : Bool) → (last : Option Nat) → RunM (Bool × Bool × Option Nat)
  | [], reduced, last => return (false, reduced, last)
  | action :: actions, reduced, last => do
      match action with
      | .shift true => perform branch state token actions reduced last
      | .shift false =>
          push branch (some (token.setExtra false))
            ((← read).automaton.behind state token.symbol)
          return (true, reduced, last)
      | .skip =>
          push branch (some (token.setExtra true)) state
          return (true, reduced, last)
      | .reduce reduction =>
          let new ← reduce branch reduction
          perform branch state token actions true (new.orElse fun _ => last)
      | .accept =>
          accept branch token
          return (true, reduced, last)

/-- Takes the next token of a branch, or finds that none fits. -/
def advance (branch : Nat) : RunM Unit := do
  let { automaton, source } ← read
  let tables := automaton.tables
  let mut state ← stateOf branch
  let mut token ← nextToken branch state
  for _ in [0:64 * (source.size + 1000)] do
    let (done, reduced, last) ←
      perform branch state token (automaton.actionsOn state token.symbol) false none
    if done then
      return
    if let some new := last then
      modifyGraph fun graph => graph.renumber new branch
      state ← stateOf branch
      continue
    if reduced then
      modifyGraph fun graph => graph.halt branch
      return
    if token.info.keyword && token.symbol != tables.word && state != Automaton.faulty &&
        automaton.allows state tables.word then
      token := token.setSymbol tables tables.word
      continue
    if state = Automaton.faulty then
      recover branch token
      return
    modifyGraph fun graph => graph.pause branch token
    return

/-- Orders the branches from good to bad, joins those that have come to the
same point, and drops those that are clearly worse. -/
def sortBranches : RunM Unit := do
  let mut i := 0
  -- Every round looks at one branch or removes one.
  for _ in [0:1000] do
    if (← branchCount) ≤ i then
      break
    if (← get).graph.isHalted i then
      modifyGraph fun graph => graph.remove i
      continue
    let own := standing (← get).graph i
    let mut j := 0
    let mut keep := true
    for _ in [0:1000] do
      if i ≤ j then
        break
      match (standing (← get).graph j).compare own with
      | .takeFirst =>
          modifyGraph fun graph => graph.remove i
          keep := false
          break
      | .preferFirst | .none =>
          if ← join j i then
            keep := false
            break
      | .preferSecond =>
          if ← join j i then
            keep := false
            break
          else
            modifyGraph fun graph => graph.swap i j
      | .takeSecond =>
          modifyGraph fun graph => graph.remove j
          i := i - 1
          continue
      j := j + 1
    if keep then
      i := i + 1

/-- The lowest cost of a branch that is not being repaired. -/
def cheapest (graph : StackGraph) : Option Nat :=
  (List.range graph.count).foldl (fun best branch =>
    let own := standing graph branch
    if own.inFault then best
    else some (match best with
      | some cost => min cost own.cost
      | none => own.cost)) none

/-- Tidies the branches and repairs one if all are paused.  Returns the lowest
cost of a branch that goes on. -/
def condense : RunM (Option Nat) := do
  sortBranches
  let mut lowest := cheapest (← get).graph
  modifyGraph fun graph =>
    { graph with branches := (graph.branches.toList.take maxBranches).toArray }
  let mut unpaused := false
  let mut i := 0
  let count ← branchCount
  for _ in [0:count] do
    let graph := (← get).graph
    match (graph.branch i).activity with
    | .paused token =>
        if !unpaused && (← get).accepted < maxBranches then
          lowest := some (graph.cost i)
          modifyGraph fun graph => graph.setActivity i .active
          handleFault i token
          unpaused := true
          i := i + 1
        else
          modifyGraph fun graph => graph.remove i
    | _ =>
        unpaused := true
        i := i + 1
  return lowest

/-- Advances every branch until it has come as far as the furthest.  Returns
that point and the number of branches. -/
def advanceAll (furthest : Nat) : RunM (Nat × Nat) := do
  let size := (← read).source.size
  let mut furthest := furthest
  let mut branch := 0
  for _ in [0:1000] do
    if (← branchCount) ≤ branch then
      break
    for _ in [0:4 * size + 1000] do
      if !(← get).graph.isActive branch then
        break
      advance branch
      let position := (← get).graph.position branch
      if furthest < position || (0 < branch && position = furthest) then
        furthest := position
        break
    branch := branch + 1
  return (furthest, ← branchCount)

/-- Reads the text to its end along all branches. -/
def readAll : (fuel : Nat) → (furthest : Nat) → RunM Unit
  | 0, _ => return ()
  | fuel + 1, furthest => do
      let (furthest, count) ← advanceAll furthest
      let lowest ← condense
      let finishedCost := (← get).finished.map (·.cost)
      let isBest := match finishedCost, lowest with
        | some cost, some lowest => decide (cost < lowest)
        | some _, none => true
        | none, _ => false
      if isBest || count = 0 then
        return ()
      else
        readAll fuel furthest

end Run

namespace Automaton

/-- The tree of a text. -/
def parse (automaton : Automaton) (source : Source) : Subtree :=
  let cell : Cell :=
    { state := initial, position := 0, links := [], cost := 0, weight := 0, dynamic := 0 }
  let branch : Branch := { top := 0, weightAtFault := 0, activity := .active, fallbacks := none }
  let run : Run := { graph := { cells := #[cell], branches := #[branch] } }
  let (_, result) :=
    ((Run.readAll (64 * (source.size + 1000)) 0).run ⟨automaton, source⟩).run run
  let tables := automaton.tables
  result.finished.getD (Subtree.node tables source 0 tables.faultSymbol [] 0)

end Automaton

end EnvAudit.Grammar
