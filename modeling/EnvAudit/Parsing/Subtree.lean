import EnvAudit.Grammar.Automaton
import EnvAudit.Parsing.Source

/-!
# Parts of a tree

A `Subtree` is a finished part of the tree of a text: a token, a phrase, or a
stretch of text that fits nowhere.  It carries the sums by which different
readings of one text are compared: what its faults cost, how many nodes of it
will show, and its dynamic precedence.
-/

namespace EnvAudit.Grammar

/-- What faults in a text cost.  The reading with the lowest cost wins. -/
structure FaultCosts where
  /-- For every repair. -/
  repair : Nat := 500
  /-- For a token that is made up. -/
  missing : Nat := 110
  /-- For a tree that is skipped. -/
  skippedTree : Nat := 100
  /-- For a byte that is skipped. -/
  skippedByte : Nat := 1
  /-- For a line that is skipped. -/
  skippedLine : Nat := 30

def faultCosts : FaultCosts := {}

/-- The head of a part of a tree. -/
structure PartInfo where
  symbol : Nat
  /-- The end of what stands before the part and its blanks. -/
  before : Nat
  start : Nat
  stop : Nat
  /-- The part may stand anywhere. -/
  extra : Bool := false
  /-- The part is a token that the text lacks. -/
  missing : Bool := false
  /-- The part is a keyword or could be one. -/
  keyword : Bool := false
  visible : Bool
  cost : Nat := 0
  /-- Visible nodes below the part. -/
  descendants : Nat := 0
  /-- Visible nodes that the part contributes to its parent if it does not
  show itself. -/
  visibleChildren : Nat := 0
  dynamic : Int := 0
  /-- The number of the shape that names the children. -/
  shape : Nat := 0
  deriving Inhabited

inductive Subtree where
  | mk (info : PartInfo) (children : List Subtree)
  deriving Inhabited

namespace Tables

/-- The symbol of text that fits nowhere. -/
def faultSymbol (tables : Tables) : Nat :=
  tables.whole + 1

/-- The symbol of a growing stretch of faulty text. -/
def faultRunSymbol (tables : Tables) : Nat :=
  tables.whole + 2

def isVisible (tables : Tables) (symbol : Nat) : Bool :=
  symbol = tables.faultSymbol || (tables.info symbol).visible

def shapeAt (tables : Tables) (number : Nat) : Shape :=
  tables.shapes.getD number default

end Tables

namespace Subtree

def info : Subtree → PartInfo
  | mk info _ => info

def children : Subtree → List Subtree
  | mk _ children => children

def setExtra (extra : Bool) : Subtree → Subtree
  | mk info children => mk { info with extra } children

def setSymbol (tables : Tables) (symbol : Nat) : Subtree → Subtree
  | mk info children => mk { info with symbol, visible := tables.isVisible symbol } children

@[inline]
def symbol (tree : Subtree) : Nat := tree.info.symbol

@[inline]
def extra (tree : Subtree) : Bool := tree.info.extra

/-- What the faults in a tree cost. -/
def cost (tree : Subtree) : Nat :=
  if tree.info.missing then faultCosts.missing + faultCosts.repair else tree.info.cost

def isFault (tables : Tables) (tree : Subtree) : Bool :=
  tree.symbol = tables.faultSymbol

/-- The number of bytes of the tree and the blanks before it. -/
def width (tree : Subtree) : Nat :=
  tree.info.stop - tree.info.before

/-- The nodes that count as progress. -/
def weight (tables : Tables) (tree : Subtree) : Nat :=
  tree.info.descendants + (if tree.info.visible then 1 else 0) +
    (if tree.symbol = tables.faultRunSymbol then 1 else 0)

/-- A token. -/
def leaf (tables : Tables) (symbol before start stop : Nat) (keyword : Bool) : Subtree :=
  mk { symbol, before, start, stop, keyword
       extra := symbol = 0, visible := tables.isVisible symbol } []

/-- A token that the text lacks. -/
def missing (tables : Tables) (symbol place : Nat) : Subtree :=
  mk { symbol, before := place, start := place, stop := place
       missing := true, visible := tables.isVisible symbol } []

/-- Sums over the children of a node. -/
structure Sums where
  cost : Nat := 0
  descendants : Nat := 0
  visibleChildren : Nat := 0
  dynamic : Int := 0

/-- Adds a child that shows under an alias or by itself. -/
def Sums.add (tables : Tables) (faulty aliased : Bool) (sums : Sums) (child : Subtree) : Sums :=
  let isLeaf := child.children.isEmpty
  let skipped :=
    if faulty && !child.extra && !(child.isFault tables && isLeaf) then
      if child.info.visible then faultCosts.skippedTree
      else if !isLeaf then faultCosts.skippedTree * child.info.visibleChildren
      else 0
    else
      0
  let shows := aliased || child.info.visible
  { cost := sums.cost + skipped +
      (if child.symbol = tables.faultRunSymbol then 0 else child.cost)
    descendants := sums.descendants + child.info.descendants + (if shows then 1 else 0)
    visibleChildren := sums.visibleChildren +
      (if shows then 1 else if isLeaf then 0 else child.info.visibleChildren)
    dynamic := sums.dynamic + child.info.dynamic }

/-- The sums over children, which take their aliases in turn unless they are
extras. -/
def sumChildren (tables : Tables) (faulty : Bool) :
    Sums → List (Option Alias) → List Subtree → Sums
  | sums, _, [] => sums
  | sums, aliases, child :: children =>
      if child.extra then
        sumChildren tables faulty (sums.add tables faulty false child) aliases children
      else
        let aliased := child.symbol != 0 && (aliases.head?.bind id).isSome
        sumChildren tables faulty (sums.add tables faulty aliased child) aliases.tail children

/-- A phrase or faulty text with the given children.  One without children
stands at `place`. -/
def node (tables : Tables) (source : Source) (place symbol : Nat) (children : List Subtree)
    (shape : Nat) (extra : Bool := false) : Subtree :=
  let faulty := symbol = tables.faultSymbol || symbol = tables.faultRunSymbol
  let aliases := if faulty then [] else (tables.shapeAt shape).aliases
  let sums := sumChildren tables faulty {} aliases children
  let before := (children.head?.map (·.info.before)).getD place
  let start := (children.head?.map (·.info.start)).getD place
  let stop := (children.getLast?.map (·.info.stop)).getD place
  let ownCost :=
    if faulty then
      faultCosts.repair + faultCosts.skippedByte * (stop - start) +
        faultCosts.skippedLine * (source.row stop - source.row start)
    else
      0
  mk { symbol, before, start, stop, extra
       visible := tables.isVisible symbol
       cost := sums.cost + ownCost
       descendants := sums.descendants
       visibleChildren := sums.visibleChildren
       dynamic := sums.dynamic
       shape } children

def addDynamic (dynamic : Int) : Subtree → Subtree
  | mk info children => mk { info with dynamic := info.dynamic + dynamic } children

/-- Splits off the extras at the end. -/
def splitTrailingExtras (trees : List Subtree) : List Subtree × List Subtree :=
  let (extras, rest) := trees.reverse.span (·.extra)
  (rest.reverse, extras.reverse)

mutual

/-- An order on trees by their symbols and numbers of children. -/
def compare : Subtree → Subtree → Ordering
  | mk a as, mk b bs =>
      (Ord.compare a.symbol b.symbol).then
        ((Ord.compare as.length bs.length).then (compareAll as bs))

def compareAll : List Subtree → List Subtree → Ordering
  | a :: as, b :: bs => (compare a b).then (compareAll as bs)
  | _, _ => .eq

end

/-- Whether two trees are readings of the same text that need not be told
apart. -/
def similar (first second : Subtree) : Bool :=
  first.symbol = second.symbol &&
    ((0 < first.cost && 0 < second.cost) ||
      (first.info.start - first.info.before = second.info.start - second.info.before &&
        first.info.stop - first.info.start = second.info.stop - second.info.start &&
        first.children.length = second.children.length &&
        first.extra = second.extra))

/-- Whether the second of two readings is better: it has cheaper faults, a
higher dynamic precedence, or comes later in the order of trees. -/
def better (first second : Subtree) : Bool :=
  if second.cost != first.cost then
    second.cost < first.cost
  else if second.info.dynamic != first.info.dynamic then
    first.info.dynamic < second.info.dynamic
  else if 0 < first.cost then
    true
  else
    compare first second == .gt

end Subtree

end EnvAudit.Grammar
