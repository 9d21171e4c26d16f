import EnvAudit.Parsing.Subtree
import Std.Data.HashMap

/-!
# Branching stacks

Where a text can be read in several ways, several branches are followed side
by side.  Each has a stack of the parts read so far.  Stacks share their lower
cells, and branches that have come to the same state at the same place are
joined: their common top cell then has several links downward.
-/

namespace EnvAudit.Grammar

/-- A link to the cell below, by way of a part of the tree.  A link without a
part marks where a fault was met. -/
structure Link where
  below : Nat
  part : Option Subtree
  deriving Inhabited

structure Cell where
  state : Nat
  position : Nat
  links : List Link
  cost : Nat
  /-- How much has been read, in nodes. -/
  weight : Nat
  dynamic : Int
  deriving Inhabited

/-- What a branch is about to do. -/
inductive Activity where
  | active
  /-- The branch has met a fault at the given token. -/
  | paused (token : Subtree)
  | halted

instance : Inhabited Activity where
  default := .halted

/-- A state below the top of a stack, to which a branch may fall back. -/
structure Fallback where
  position : Nat
  depth : Nat
  state : Nat
  deriving Inhabited

structure Branch where
  /-- The top cell. -/
  top : Nat
  /-- The weight of the stack when the last fault was met. -/
  weightAtFault : Nat
  activity : Activity
  fallbacks : Option (List Fallback)
  deriving Inhabited

/-- The branches that are being followed. -/
structure StackGraph where
  cells : Array Cell := #[]
  branches : Array Branch := #[]
  deriving Inhabited

namespace StackGraph

def cell (graph : StackGraph) (number : Nat) : Cell :=
  graph.cells.getD number default

def branch (graph : StackGraph) (number : Nat) : Branch :=
  graph.branches.getD number default

def top (graph : StackGraph) (number : Nat) : Cell :=
  graph.cell (graph.branch number).top

def count (graph : StackGraph) : Nat :=
  graph.branches.size

def state (graph : StackGraph) (number : Nat) : Nat :=
  (graph.top number).state

def position (graph : StackGraph) (number : Nat) : Nat :=
  (graph.top number).position

def dynamic (graph : StackGraph) (number : Nat) : Int :=
  (graph.top number).dynamic

def isActive (graph : StackGraph) (number : Nat) : Bool :=
  match (graph.branch number).activity with
  | .active => true
  | _ => false

def isPaused (graph : StackGraph) (number : Nat) : Bool :=
  match (graph.branch number).activity with
  | .paused _ => true
  | _ => false

def isHalted (graph : StackGraph) (number : Nat) : Bool :=
  match (graph.branch number).activity with
  | .halted => true
  | _ => false

/-- What the faults of a branch cost, with the repair that is under way. -/
def cost (graph : StackGraph) (number : Nat) : Nat :=
  let top := graph.top number
  let repairing := graph.isPaused number ||
    (top.state = Automaton.faulty && (top.links.head?.map (·.part.isNone)).getD false)
  top.cost + (if repairing then faultCosts.repair else 0)

/-- How much has been read since the last fault. -/
def weightSinceFault (graph : StackGraph) (number : Nat) : Nat :=
  (graph.top number).weight - (graph.branch number).weightAtFault

/-- Keeps the weight at the last fault from exceeding the weight of the stack. -/
def settleWeight (graph : StackGraph) (number : Nat) : StackGraph :=
  let weight := (graph.top number).weight
  if weight < (graph.branch number).weightAtFault then
    { graph with branches := graph.branches.modify number fun branch =>
        { branch with weightAtFault := weight } }
  else
    graph

/-- Whether a branch has read anything since its last fault. -/
def hasAdvanced (graph : StackGraph) (number : Nat) : Bool :=
  let start := graph.top number
  if start.cost = 0 then
    true
  else
    go (graph.branch number).weightAtFault graph.cells.size start
where
  go (weightAtFault : Nat) : (fuel : Nat) → Cell → Bool
    | 0, _ => false
    | fuel + 1, cell =>
        match cell.links.head? with
        | some ⟨below, some part⟩ =>
            if 0 < part.width then true
            else if weightAtFault < cell.weight && part.cost = 0 then
              go weightAtFault fuel (graph.cell below)
            else
              false
        | _ => false

/-- Puts a part on the stack of a branch. -/
def push (tables : Tables) (graph : StackGraph) (number : Nat) (part : Option Subtree)
    (state : Nat) : StackGraph :=
  let below := (graph.branch number).top
  let old := graph.cell below
  let cell : Cell :=
    match part with
    | some part =>
        { state
          position := old.position + part.width
          links := [⟨below, some part⟩]
          cost := old.cost + part.cost
          weight := old.weight + part.weight tables
          dynamic := old.dynamic + part.info.dynamic }
    | none => { old with state, links := [⟨below, none⟩] }
  let { cells, branches } := graph
  let top := cells.size
  { cells := cells.push cell
    branches := branches.modify number fun branch => { branch with
      top
      weightAtFault := if part.isNone then cell.weight else branch.weightAtFault } }

def remove (graph : StackGraph) (number : Nat) : StackGraph :=
  { graph with branches := graph.branches.eraseIdxIfInBounds number }

def setActivity (graph : StackGraph) (number : Nat) (activity : Activity) : StackGraph :=
  { graph with branches := graph.branches.modify number fun branch =>
      { branch with activity } }

def halt (graph : StackGraph) (number : Nat) : StackGraph :=
  graph.setActivity number .halted

def pause (graph : StackGraph) (number : Nat) (token : Subtree) : StackGraph :=
  let weight := (graph.top number).weight
  { graph with branches := graph.branches.modify number fun branch =>
      { branch with activity := .paused token, weightAtFault := weight } }

/-- Moves a branch to the place of an earlier one. -/
def renumber (graph : StackGraph) (source target : Nat) : StackGraph :=
  if source = target then
    graph
  else
    let old := graph.branch target
    let new := graph.branch source
    let moved := { new with fallbacks := new.fallbacks.orElse fun _ => old.fallbacks }
    { graph with branches := (graph.branches.setIfInBounds target moved).eraseIdxIfInBounds source }

def swap (graph : StackGraph) (first second : Nat) : StackGraph :=
  let a := graph.branch first
  let b := graph.branch second
  { graph with branches := (graph.branches.setIfInBounds first b).setIfInBounds second a }

/-- Copies a branch to the end. -/
def copy (graph : StackGraph) (number : Nat) : StackGraph :=
  { graph with branches := graph.branches.push { graph.branch number with fallbacks := none } }

def similarParts (first second : Option Subtree) : Bool :=
  match first, second with
  | none, none => true
  | some a, some b => a.similar b
  | _, _ => false

def partDynamic (part : Option Subtree) : Int :=
  (part.map (·.info.dynamic)).getD 0

/-- The link of a cell that leads the same way as the given one: by way of a
similar part to the same cell, or to one that can be joined with it. -/
def linkLike? (graph : StackGraph) (links : List Link) (link : Link) : Option Nat :=
  links.findIdx? fun known =>
    similarParts known.part link.part &&
      (known.below = link.below ||
        let a := graph.cell known.below
        let b := graph.cell link.below
        a.state = b.state && a.position = b.position && a.cost = b.cost)

/-- The most links that a cell has. -/
def maxLinks : Nat := 8

/-- Adds a link to a cell.  Links that lead the same way are joined. -/
def addLink (tables : Tables) : (fuel : Nat) → StackGraph → (target : Nat) → Link → StackGraph
  | 0, graph, _, _ => graph
  | fuel + 1, graph, target, link =>
      if link.below = target then
        graph
      else
        let cell := graph.cell target
        match graph.linkLike? cell.links link with
        | some i =>
            let known := cell.links.getD i default
            if known.below = link.below then
              if partDynamic known.part < partDynamic link.part then
                let dynamic := (graph.cell link.below).dynamic + partDynamic link.part
                { graph with cells := graph.cells.modify target fun cell =>
                    { cell with links := cell.links.set i link, dynamic } }
              else
                graph
            else
              let graph := (graph.cell link.below).links.foldl
                (fun graph lower => addLink tables fuel graph known.below lower) graph
              let dynamic := (graph.cell link.below).dynamic + partDynamic link.part
              { graph with cells := graph.cells.modify target fun cell =>
                  { cell with dynamic := max cell.dynamic dynamic } }
        | none =>
            if maxLinks ≤ cell.links.length then
              graph
            else
              let lower := graph.cell link.below
              let weight := lower.weight + (link.part.map (·.weight tables)).getD 0
              let dynamic := lower.dynamic + partDynamic link.part
              { graph with cells := graph.cells.modify target fun cell => { cell with
                  links := cell.links ++ [link]
                  weight := max cell.weight weight
                  dynamic := max cell.dynamic dynamic } }

/-- Whether two branches have come to the same point. -/
def canJoin (graph : StackGraph) (first second : Nat) : Bool :=
  graph.isActive first && graph.isActive second &&
    let a := graph.top first
    let b := graph.top second
    a.position = b.position && a.cost = b.cost && a.state = b.state

/-- Joins the second branch to the first, if they have come to the same point. -/
def join? (tables : Tables) (graph : StackGraph) (first second : Nat) : Option StackGraph :=
  if graph.canJoin first second then
    let target := (graph.branch first).top
    let joined := (graph.top second).links.foldl
      (fun graph link => addLink tables graph.cells.size graph target link) graph
    let cell := joined.cell target
    let settled :=
      if cell.state = Automaton.faulty then
        { joined with branches := joined.branches.modify first fun branch =>
            { branch with weightAtFault := cell.weight } }
      else
        joined
    some (settled.remove second)
  else
    none

/-- A way down from the top of a stack. -/
structure Descent where
  cell : Nat
  /-- The parts passed, the lowest first. -/
  parts : List Subtree
  /-- The number of parts passed that are no extras. -/
  depth : Nat
  deriving Inhabited

/-- What to do at a cell on the way down. -/
structure Visit where
  /-- The way ends here, with success. -/
  take : Bool
  stop : Bool

/-- The most ways down that are followed at once. -/
def maxDescents : Nat := 64

/-- One step down by a link. -/
def Descent.down (descent : Descent) (link : Link) : Descent :=
  match link.part with
  | some part =>
      { cell := link.below
        parts := part :: descent.parts
        depth := if part.extra then descent.depth else descent.depth + 1 }
  | none => { descent with cell := link.below, depth := descent.depth + 1 }

/-- Takes one step down on every way.  The first link of a cell goes on in
place, the others are new ways at the end. -/
def descendOnce (graph : StackGraph) (visit : σ → Descent → σ × Visit) :
    List Descent → (kept added : Array Descent) → (state : σ) → (taken : Array Descent) →
      σ × Array Descent × Array Descent
  | [], kept, added, state, taken => (state, kept ++ added, taken)
  | descent :: others, kept, added, state, taken =>
      let (state, result) := visit state descent
      let links := (graph.cell descent.cell).links
      let taken := if result.take then taken.push descent else taken
      match links with
      | [] => descendOnce graph visit others kept added state taken
      | first :: rest =>
          if result.stop then
            descendOnce graph visit others kept added state taken
          else
            let added := rest.foldl (fun added link =>
              if maxDescents ≤ kept.size + 1 + others.length + added.size then added
              else added.push (descent.down link)) added
            descendOnce graph visit others (kept.push (descent.down first)) added state taken

/-- Follows all ways down until they stop. -/
def descend (graph : StackGraph) (visit : σ → Descent → σ × Visit) :
    (fuel : Nat) → Array Descent → σ → Array Descent → σ × Array Descent
  | 0, _, state, taken => (state, taken)
  | fuel + 1, descents, state, taken =>
      if descents.isEmpty then
        (state, taken)
      else
        let (state, descents, taken) :=
          descendOnce graph visit descents.toList #[] #[] state taken
        descend graph visit fuel descents state taken

def descendFrom (graph : StackGraph) (number : Nat) (visit : σ → Descent → σ × Visit)
    (start : σ) : σ × Array Descent :=
  descend graph visit (graph.cells.size + 1)
    #[{ cell := (graph.branch number).top, parts := [], depth := 0 }] start #[]

/-- A new branch that has come out of an old one, with the parts that lay
above its top. -/
structure Slice where
  branch : Nat
  parts : List Subtree
  deriving Inhabited

/-- Makes the ends of ways down into branches.  Ways that end at one cell share
a branch. -/
def slices (graph : StackGraph) (number : Nat) (taken : Array Descent) : StackGraph × Array Slice :=
  taken.foldl (fun (graph, slices) descent =>
    match (List.range slices.size).reverse.find? fun i =>
        (graph.branch (slices.getD i default).branch).top = descent.cell with
    | some i =>
        let branch := (slices.getD i default).branch
        (graph, slices.insertIdxIfInBounds (i + 1) ⟨branch, descent.parts⟩)
    | none =>
        let branch : Branch :=
          { graph.branch number with
            top := descent.cell, activity := .active, fallbacks := none }
        ({ graph with branches := graph.branches.push branch },
          slices.push ⟨graph.branches.size, descent.parts⟩)) (graph, #[])

/-- Takes the given number of parts off a stack, on every way. -/
def pop (graph : StackGraph) (number depth : Nat) : StackGraph × Array Slice :=
  let (_, taken) := graph.descendFrom number (fun _ descent =>
    let reached := descent.depth = depth
    ((), ⟨reached, reached⟩)) ()
  graph.slices number taken

/-- Takes all parts off a stack. -/
def popAll (graph : StackGraph) (number : Nat) : StackGraph × Array Slice :=
  let (_, taken) := graph.descendFrom number (fun _ descent =>
    ((), ⟨(graph.cell descent.cell).links.isEmpty, false⟩)) ()
  graph.slices number taken

/-- Takes faulty text off the top of a stack. -/
def popFault (tables : Tables) (graph : StackGraph) (number : Nat) : StackGraph × List Subtree :=
  if (graph.top number).links.any fun link => (link.part.map (·.isFault tables)).getD false then
    let (_, taken) := graph.descendFrom number (fun found descent =>
      match descent.parts with
      | [] => (found, ⟨false, false⟩)
      | part :: _ =>
          if !found && part.isFault tables then (true, ⟨true, true⟩) else (found, ⟨false, true⟩))
      false
    let (graph, slices) := graph.slices number taken
    match slices[0]? with
    | some slice => (graph.renumber slice.branch number, slice.parts)
    | none => (graph, [])
  else
    (graph, [])

/-- How deep a stack is searched for states to fall back to. -/
def maxFallbackDepth : Nat := 16

/-- The states on a stack, the highest first. -/
def findFallbacks (graph : StackGraph) (number : Nat) : List Fallback :=
  let (found, _) := graph.descendFrom number (fun found descent =>
    let cell := graph.cell descent.cell
    if maxFallbackDepth < descent.depth then
      (found, ⟨false, true⟩)
    else
      let known := (found.toList.reverse.takeWhile (descent.depth ≤ ·.depth)).any fun fallback =>
        fallback.depth = descent.depth && fallback.state = cell.state
      (if known then found else found.push ⟨cell.position, descent.depth, cell.state⟩,
        ⟨false, false⟩)) (#[] : Array Fallback)
  found.toList

end StackGraph

end EnvAudit.Grammar
