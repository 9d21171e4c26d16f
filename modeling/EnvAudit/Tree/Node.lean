import EnvAudit.Parsing.Source

/-!
# Trees

The tree of a source text.  A `Node` knows its kind, where it stands, under
which field its parent keeps it, and whether it or anything below it is
faulty.
-/

namespace EnvAudit

/-- What a node says about itself. -/
structure NodeInfo where
  kind : String
  /-- Punctuation and keywords are not named. -/
  named : Bool
  /-- The first byte of the node. -/
  start : Nat
  /-- The byte behind the node. -/
  stop : Nat
  /-- The place of the first byte. -/
  point : Point
  /-- The field of the parent that the node stands in. -/
  field : Option String
  /-- The node is text that fits nowhere. -/
  fault : Bool
  /-- The node is a token that the text lacks. -/
  missing : Bool
  /-- The node or something below it is faulty or missing. -/
  hasFault : Bool
  deriving BEq, Repr, Inhabited

/-- A tree with its children in order. -/
inductive Node where
  | mk (info : NodeInfo) (children : List Node)
  deriving Inhabited

namespace Node

def info : Node → NodeInfo
  | mk info _ => info

def children : Node → List Node
  | mk _ children => children

@[simp]
theorem info_mk (info : NodeInfo) (children : List Node) : (mk info children).info = info :=
  rfl

@[simp]
theorem children_mk (info : NodeInfo) (children : List Node) :
    (mk info children).children = children :=
  rfl

@[inline]
def kind (node : Node) : String := node.info.kind

@[inline]
def start (node : Node) : Nat := node.info.start

@[inline]
def stop (node : Node) : Nat := node.info.stop

/-- The first child in the given field. -/
def child? (node : Node) (field : String) : Option Node :=
  node.children.find? fun child => child.info.field == some field

/-- The text that a node covers. -/
def text (node : Node) (source : Source) : String :=
  slice source.text node.start node.stop

end Node

end EnvAudit
