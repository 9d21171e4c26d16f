import EnvAudit.Tree.Node

/-!
# Walking a tree

A `Cursor` stands at a node of a tree and remembers the way back.  Its moves
visit the nodes in order, parents before children, and every move forward
leaves fewer nodes to come, so that a walk ends.
-/

namespace EnvAudit

namespace Node

mutual

/-- The number of nodes of a tree. -/
def size : Node → Nat
  | mk _ children => sizes children + 1

/-- The number of nodes of several trees. -/
def sizes : List Node → Nat
  | [] => 0
  | node :: nodes => size node + sizes nodes

end

theorem size_eq (node : Node) : node.size = sizes node.children + 1 := by
  cases node
  rfl

theorem size_pos (node : Node) : 0 < node.size := by
  rw [size_eq]
  omega

end Node

/-- A node with what comes after it in the tree that holds it. -/
structure Cursor where
  node : Node
  /-- The siblings after the node. -/
  after : List Node
  /-- The nodes above, the parent first, each with the siblings after it. -/
  above : List (Node × List Node)

namespace Cursor

def ofRoot (root : Node) : Cursor where
  node := root
  after := []
  above := []

/-- Goes to the first child. -/
def firstChild? (cursor : Cursor) : Option Cursor :=
  match cursor.node.children with
  | [] => none
  | child :: after => some ⟨child, after, (cursor.node, cursor.after) :: cursor.above⟩

/-- Goes to the next of the given siblings, or else to the next sibling of the
nearest node above that has one. -/
def leaveTo? : (after : List Node) → (above : List (Node × List Node)) → Option Cursor
  | node :: after, above => some ⟨node, after, above⟩
  | [], [] => none
  | [], (_, after) :: above => leaveTo? after above

/-- Goes to the next node that is not below the current one. -/
def leave? (cursor : Cursor) : Option Cursor :=
  leaveTo? cursor.after cursor.above

/-- Goes on, below the current node only if `enter` is set. -/
def next? (cursor : Cursor) (enter : Bool) : Option Cursor :=
  if enter then cursor.firstChild?.orElse fun _ => cursor.leave? else cursor.leave?

/-- The number of nodes after the nodes above. -/
def pendingAbove : List (Node × List Node) → Nat
  | [] => 0
  | (_, after) :: above => Node.sizes after + pendingAbove above

/-- The number of nodes still to be visited, the current one included. -/
def remaining (cursor : Cursor) : Nat :=
  cursor.node.size + Node.sizes cursor.after + pendingAbove cursor.above

theorem remaining_of_firstChild? {cursor child : Cursor}
    (found : cursor.firstChild? = some child) : child.remaining < cursor.remaining := by
  unfold firstChild? at found
  split at found
  · contradiction
  · rename_i node after children
    cases found
    simp only [remaining, pendingAbove, Node.size_eq cursor.node, children, Node.sizes]
    omega

theorem remaining_of_leaveTo? {after : List Node} {above : List (Node × List Node)}
    {next : Cursor} (found : leaveTo? after above = some next) :
    next.remaining ≤ Node.sizes after + pendingAbove above := by
  induction above generalizing after with
  | nil =>
      cases after with
      | nil => simp [leaveTo?] at found
      | cons node after =>
          simp only [leaveTo?, Option.some.injEq] at found
          subst found
          simp [remaining, Node.sizes, pendingAbove]
  | cons parent above ih =>
      cases after with
      | nil =>
          simp only [leaveTo?] at found
          have := ih found
          simp only [Node.sizes, pendingAbove]
          omega
      | cons node after =>
          simp only [leaveTo?, Option.some.injEq] at found
          subst found
          simp [remaining, Node.sizes]

theorem remaining_of_leave? {cursor next : Cursor} (found : cursor.leave? = some next) :
    next.remaining < cursor.remaining := by
  have bound := remaining_of_leaveTo? found
  have positive := cursor.node.size_pos
  simp only [remaining] at bound ⊢
  omega

theorem remaining_of_next? {cursor next : Cursor} {enter : Bool}
    (found : cursor.next? enter = some next) : next.remaining < cursor.remaining := by
  unfold next? at found
  split at found
  · cases child : cursor.firstChild? with
    | none =>
        rw [child] at found
        exact remaining_of_leave? found
    | some cursor' =>
        rw [child] at found
        cases found
        exact remaining_of_firstChild? child
  · exact remaining_of_leave? found

end Cursor

end EnvAudit
