import EnvAudit.Tree.Cursor

/-!
# References to environment variables

A script reads the variable `NAME` by the member expression
`process.env.NAME`.  `Node.reference?` recognises such an expression, and
`Node.references` lists those of a tree in order.
-/

namespace EnvAudit

/-- A place where a variable is read; lines and columns count from one. -/
structure Reference where
  name : String
  line : Nat
  column : Nat
  deriving BEq, DecidableEq, Repr, Inhabited

namespace Node

/-- The object and the property of a member expression.  A property that does
not follow its object is not read at run time. -/
def memberParts? (node : Node) : Option (Node × Node) :=
  if node.kind == "member_expression" then do
    let object ← node.child? "object"
    let property ← node.child? "property"
    if object.stop ≤ property.start then some (object, property) else none
  else
    none

mutual

/-- What stands within parentheses, however many there are. -/
def peel : Node → Node
  | mk info children =>
      if info.kind == "parenthesized_expression" then
        (peelFirst children).getD (mk info children)
      else
        mk info children

/-- What stands within the first named of the nodes. -/
def peelFirst : List Node → Option Node
  | [] => none
  | node :: nodes => if node.info.named then some (peel node) else peelFirst nodes

end

/-- The node is of the given kind and reads as the given text. -/
def isText (node : Node) (source : Source) (kind text : String) : Bool :=
  node.kind == kind && node.text source == text

/-- The variable that an expression reads, if it is `process.env.NAME` up to
parentheses around `process` and `process.env`. -/
def variableName? (node : Node) (source : Source) : Option String := do
  let (object, property) ← node.memberParts?
  let (base, env) ← object.peel.memberParts?
  if base.peel.isText source "identifier" "process" &&
      env.isText source "property_identifier" "env" &&
      property.kind == "property_identifier" then
    some (property.text source)
  else
    none

/-- The reference that a node is, if it is one. -/
def reference? (node : Node) (source : Source) : Option Reference :=
  (node.variableName? source).map fun name =>
    { name, line := node.info.point.row + 1, column := node.info.point.column + 1 }

/-- Whether what is below the node is read at run time. -/
def isRead (node : Node) : Bool :=
  node.kind != "type_query"

/-- The references from a cursor on, after the ones found so far. -/
def collectReferences (source : Source) (cursor : Cursor) (found : Array Reference) :
    Array Reference :=
  let found := match cursor.node.reference? source with
    | some reference => found.push reference
    | none => found
  match _next : cursor.next? cursor.node.isRead with
  | some next => collectReferences source next found
  | none => found
termination_by cursor.remaining
decreasing_by exact Cursor.remaining_of_next? _next

/-- The references of a tree in source order. -/
def references (root : Node) (source : Source) : List Reference :=
  (collectReferences source (.ofRoot root) #[]).toList

end Node

/-- The distinct names of references, in order of first appearance. -/
def distinctNames (references : List Reference) : List String :=
  (references.map (·.name)).eraseDups

end EnvAudit
