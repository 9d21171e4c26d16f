import EnvAudit.Tree.Cursor

/-!
# Faulty trees

A tree is faulty where it holds text that fits nowhere or lacks a token.
`Node.firstDefect` finds the first such place, `Node.countDefects` counts them.
-/

namespace EnvAudit

namespace Node

/-- The node itself is faulty text or a token that the text lacks. -/
def isDefect (node : Node) : Bool :=
  node.info.fault || node.info.missing

/-- Searches for the first defect, going only below nodes that hold one. -/
def searchDefect (root : Node) (cursor : Cursor) : Point :=
  if cursor.node.isDefect then
    cursor.node.info.point
  else
    match _found : cursor.next? cursor.node.info.hasFault with
    | some next => searchDefect root next
    | none => root.info.point
termination_by cursor.remaining
decreasing_by exact Cursor.remaining_of_next? _found

/-- The place of the first defect of a tree. -/
def firstDefect (root : Node) : Option Point :=
  if root.info.hasFault then some (searchDefect root (.ofRoot root)) else none

mutual

/-- The number of defects at a node and below it. -/
def countBelow : Node → Nat
  | mk info children =>
      (if info.fault || info.missing then 1 else 0) + countAmong children

/-- The number of defects among nodes, passing over those that hold none. -/
def countAmong : List Node → Nat
  | [] => 0
  | node :: nodes =>
      (if node.info.hasFault || node.info.missing then countBelow node else 0) +
        countAmong nodes

end

/-- The number of defects of a tree. -/
def countDefects (root : Node) : Nat :=
  if root.info.hasFault then countBelow root else 0

end Node

end EnvAudit
