import EnvAudit.Extraction
import EnvAudit.Proofs.Tree.Visits

/-!
# The defects of a tree

The search for the first defect and the count of defects leave out what is below nodes without a
flag.  Where the flags tell the truth, nothing is lost by this: both agree with a descent to all
nodes of the tree.  A text is refused at the first defect of its tree.
-/

namespace EnvAudit

namespace Node

mutual

/-- A node and all nodes below it, each before those below it. -/
def subtrees : Node → List Node
  | .mk info children => .mk info children :: subtreesAmong children

/-- Nodes and all nodes below them. -/
def subtreesAmong : List Node → List Node
  | [] => []
  | node :: nodes => subtrees node ++ subtreesAmong nodes

end

@[simp]
theorem subtrees_mk (info : NodeInfo) (children : List Node) :
    (mk info children).subtrees = mk info children :: children.flatMap subtrees := by
  have among : subtreesAmong children = children.flatMap subtrees := by
    induction children with
    | nil => rfl
    | cons node nodes ih => rw [subtreesAmong, ih, List.flatMap_cons]
  rw [subtrees, among]

theorem self_mem_subtrees (node : Node) : node ∈ node.subtrees := by
  cases node
  simp

theorem subtrees_subset {node child : Node} (member : child ∈ node.children) :
    child.subtrees ⊆ node.subtrees := by
  obtain ⟨info, children⟩ := node
  intro found below
  rw [subtrees_mk]
  exact List.mem_cons_of_mem _ (List.mem_flatMap.mpr ⟨child, member, below⟩)

/-- The flags of a tree tell the truth: just those nodes have one that are defects or have one
below them. -/
def Faithful (root : Node) : Prop :=
  ∀ node ∈ root.subtrees,
    node.info.hasFault = true ↔ ∃ found ∈ node.subtrees, found.isDefect = true

theorem Faithful.child {node child : Node} (faithful : node.Faithful)
    (member : child ∈ node.children) : child.Faithful :=
  fun found below => faithful found (subtrees_subset member below)

theorem Faithful.sound {node : Node} (faithful : node.Faithful)
    (unflagged : node.info.hasFault = false) :
    ∀ found ∈ node.subtrees, ¬ found.isDefect = true := by
  intro found below defect
  have flagged := (faithful node node.self_mem_subtrees).mpr ⟨found, below, defect⟩
  rw [unflagged] at flagged
  cases flagged

theorem Faithful.hasFault_iff {node : Node} (faithful : node.Faithful) :
    node.info.hasFault = true ↔ (node.subtrees.find? isDefect).isSome = true := by
  rw [faithful node node.self_mem_subtrees, List.find?_isSome]

theorem countAmong_eq {nodes : List Node}
    (each : ∀ node ∈ nodes, node.Faithful ∧ node.countBelow = node.subtrees.countP isDefect) :
    countAmong nodes = (nodes.flatMap subtrees).countP isDefect := by
  induction nodes with
  | nil => rfl
  | cons node nodes ih =>
      obtain ⟨⟨faithful, counts⟩, others⟩ := List.forall_mem_cons.mp each
      rw [countAmong, ih others, List.flatMap_cons, List.countP_append]
      congr 1
      by_cases flagged : node.info.hasFault = true
      · rw [flagged, Bool.true_or, if_pos rfl, counts]
      · -- A node without a flag is passed over, and so it must not lack a token itself.
        rw [Bool.not_eq_true] at flagged
        have sound := faithful.sound flagged
        have present : node.info.missing = false := by
          have solid := sound node node.self_mem_subtrees
          simp only [isDefect, Bool.or_eq_true, not_or, Bool.not_eq_true] at solid
          exact solid.2
        rw [flagged, present, List.countP_eq_zero.mpr sound]
        rfl

/-- Counting below flagged nodes only leaves out no defect. -/
theorem countBelow_eq {node : Node} (faithful : node.Faithful) :
    node.countBelow = node.subtrees.countP isDefect := by
  induction node using induct with
  | step info children ih =>
      have each (child : Node) (member : child ∈ children) :
          child.Faithful ∧ child.countBelow = child.subtrees.countP isDefect :=
        ⟨faithful.child member, ih child member (faithful.child member)⟩
      have among := countAmong_eq each
      rw [countBelow, among, subtrees_mk, List.countP_cons, Nat.add_comm]
      rfl

theorem countDefects_eq {root : Node} (faithful : root.Faithful) :
    root.countDefects = root.subtrees.countP isDefect := by
  rw [countDefects]
  by_cases flagged : root.info.hasFault = true
  · rw [if_pos flagged, countBelow_eq faithful]
  · rw [if_neg flagged]
    rw [Bool.not_eq_true] at flagged
    exact (List.countP_eq_zero.mpr (faithful.sound flagged)).symm

end Node

namespace Cursor

/-- The search for a defect from a node on: it ends at a defect, or where there is no node to go
to. -/
inductive Seeks : Option Cursor → Option Cursor → Prop
  | lost : Seeks none none
  | hits {cursor : Cursor} (defect : cursor.node.isDefect = true) :
      Seeks (some cursor) (some cursor)
  | goes {cursor : Cursor} {hit : Option Cursor} (sound : ¬ cursor.node.isDefect = true)
      (rest : Seeks (cursor.next? cursor.node.info.hasFault) hit) : Seeks (some cursor) hit

/-- The search ends, whatever the flags say. -/
theorem exists_seeks (cursor : Cursor) : ∃ hit, Seeks (some cursor) hit := by
  by_cases defect : cursor.node.isDefect = true
  · exact ⟨_, .hits defect⟩
  · cases further : cursor.next? cursor.node.info.hasFault with
    | none => exact ⟨none, .goes defect (further ▸ .lost)⟩
    | some next =>
        obtain ⟨hit, rest⟩ := exists_seeks next
        exact ⟨hit, .goes defect (further ▸ rest)⟩
termination_by cursor.remaining
decreasing_by exact remaining_of_next? further

/-- What the search gives is the place of the node at which it ends, or of the root. -/
theorem Seeks.searchDefect {start hit : Option Cursor} (search : Seeks start hit) (root : Node)
    {cursor : Cursor} (begins : start = some cursor) :
    root.searchDefect cursor = ((hit.map Cursor.node).getD root).info.point := by
  induction search generalizing cursor with
  | lost => cases begins
  | hits defect =>
      cases begins
      rw [Node.searchDefect, if_pos defect]
      rfl
  | @goes here hit sound rest ih =>
      cases begins
      rw [Node.searchDefect, if_neg sound]
      cases next : here.next? here.node.info.hasFault with
      | none =>
          rw [next] at rest
          cases rest
          rfl
      | some further => exact ih next

/-- From the children of a node the search ends at the first defect among them and below them, or
goes on. -/
theorem seeks_among (parent : Node) {nodes after : List Node} {above : List (Node × List Node)}
    {hit : Option Cursor}
    (each : ∀ node ∈ nodes, ∀ after above hit, Seeks (leaveTo? after above) hit →
      ∃ found, Seeks (some ⟨node, after, above⟩) found ∧
        found.map Cursor.node = (node.subtrees.find? Node.isDefect).or (hit.map Cursor.node))
    (rest : Seeks (leaveTo? after above) hit) :
    ∃ found, Seeks (leaveTo? nodes ((parent, after) :: above)) found ∧
      found.map Cursor.node =
        ((nodes.flatMap Node.subtrees).find? Node.isDefect).or (hit.map Cursor.node) := by
  induction nodes with
  | nil => exact ⟨hit, rest, rfl⟩
  | cons node nodes ih =>
      obtain ⟨here, others⟩ := List.forall_mem_cons.mp each
      obtain ⟨behind, seeksBehind, isBehind⟩ := ih others
      obtain ⟨found, seeks, isFound⟩ := here nodes ((parent, after) :: above) behind seeksBehind
      refine ⟨found, seeks, ?_⟩
      rw [isFound, isBehind, List.flatMap_cons, List.find?_append, Option.or_assoc]

/-- In a tree whose flags tell the truth, the search from a node ends at the first defect at the
node and below it, or goes on behind the node. -/
theorem seeks_node {node : Node} (faithful : node.Faithful) (after : List Node)
    (above : List (Node × List Node)) (hit : Option Cursor)
    (rest : Seeks (leaveTo? after above) hit) :
    ∃ found, Seeks (some ⟨node, after, above⟩) found ∧
      found.map Cursor.node = (node.subtrees.find? Node.isDefect).or (hit.map Cursor.node) := by
  induction node using Node.induct generalizing after above hit with
  | step info children ih =>
      rw [Node.subtrees_mk, List.find?_cons]
      by_cases defect : (Node.mk info children).isDefect = true
      · exact ⟨_, .hits defect, by simp [defect]⟩
      · rw [Bool.not_eq_true] at defect
        rw [defect]
        have sound : ¬ (Node.mk info children).isDefect = true := by simp [defect]
        by_cases flagged : info.hasFault = true
        · have each := fun child member => ih child member (faithful.child member)
          obtain ⟨found, seeks, isFound⟩ := seeks_among (.mk info children) each rest
          refine ⟨found, .goes sound ?_, isFound⟩
          simp only [Node.info_mk, flagged, next?_true]
          exact seeks
        · -- Below a node without a flag there is nothing to be found.
          rw [Bool.not_eq_true] at flagged
          have none : (children.flatMap Node.subtrees).find? Node.isDefect = none := by
            rw [List.find?_eq_none]
            intro found below
            refine faithful.sound flagged found ?_
            rw [Node.subtrees_mk]
            exact List.mem_cons_of_mem _ below
          refine ⟨hit, .goes sound ?_, by rw [none]; rfl⟩
          simp only [Node.info_mk, flagged]
          exact rest

end Cursor

namespace Node

theorem firstDefect_eq_none_iff {root : Node} :
    root.firstDefect = none ↔ root.info.hasFault = false := by
  rw [firstDefect]
  by_cases flagged : root.info.hasFault = true <;> simp [flagged]

/-- The search from the root ends, at the first defect if the flags tell the truth. -/
theorem exists_seeks_root (root : Node) :
    ∃ found, Cursor.Seeks (some (.ofRoot root)) found ∧
      (root.Faithful → found.map Cursor.node = root.subtrees.find? isDefect) := by
  by_cases faithful : root.Faithful
  · obtain ⟨found, seeks, isFound⟩ := Cursor.seeks_node faithful [] [] none .lost
    exact ⟨found, seeks, fun _ => by rw [isFound, Option.map_none, Option.or_none]⟩
  · obtain ⟨found, seeks⟩ := Cursor.exists_seeks (.ofRoot root)
    exact ⟨found, seeks, fun isFaithful => absurd isFaithful faithful⟩

theorem firstDefect_eq {root : Node} (faithful : root.Faithful) :
    root.firstDefect = (root.subtrees.find? isDefect).map fun defect => defect.info.point := by
  obtain ⟨found, seeks, isFound⟩ := root.exists_seeks_root
  rw [firstDefect]
  by_cases flagged : root.info.hasFault = true
  · obtain ⟨defect, known⟩ := Option.isSome_iff_exists.mp (faithful.hasFault_iff.mp flagged)
    rw [if_pos flagged, seeks.searchDefect root rfl, isFound faithful, known]
    rfl
  · rw [if_neg flagged]
    rw [faithful.hasFault_iff, Bool.not_eq_true, Option.isSome_eq_false_iff,
      Option.isNone_iff_eq_none] at flagged
    rw [flagged]
    rfl

theorem countDefects_eq_zero_iff {root : Node} (faithful : root.Faithful) :
    root.countDefects = 0 ↔ root.info.hasFault = false := by
  rw [countDefects_eq faithful, List.countP_eq_zero, ← Bool.not_eq_true, faithful.hasFault_iff,
    List.find?_isSome]
  push Not
  rfl

end Node

section Reading

variable {automaton : Grammar.Automaton} {source : Source}

theorem parseWith_eq_ok_iff {tree : Node} : parseWith automaton source = .ok tree ↔
    automaton.tree source = tree ∧ tree.info.hasFault = false := by
  rw [← Node.firstDefect_eq_none_iff, parseWith]
  cases defect : (automaton.tree source).firstDefect with
  | none =>
      constructor
      · rintro ⟨⟩
        exact ⟨rfl, defect⟩
      · rintro ⟨rfl, _⟩
        rfl
  | some point =>
      constructor
      · rintro ⟨⟩
      · rintro ⟨rfl, sound⟩
        cases defect.symm.trans sound

theorem parseWith_eq_error_iff {error : ParseError} : parseWith automaton source = .error error ↔
    ∃ point, (automaton.tree source).firstDefect = some point ∧
      error = .invalidSource ParseError.inlineSource (point.row + 1) (point.column + 1) := by
  rw [parseWith]
  cases (automaton.tree source).firstDefect with
  | none => simp
  | some point => simp [eq_comm]

end Reading

/-- The search for a defect ends on every tree, and something is found just if the root has a flag;
a text is read just if the root of its tree has none.  Where the flags tell the truth, the search
ends at the first defect that a descent to all nodes comes to, so that the root never stands in for
it.  The count is the number of all defects, and is zero just for the texts that are read; any other
is refused at the place of the first defect. -/
theorem defects_agree_with_descent (root : Node) :
    (∃ hit, Cursor.Seeks (some (.ofRoot root)) hit ∧
      (root.info.hasFault = true →
        root.firstDefect = some ((hit.map Cursor.node).getD root).info.point) ∧
      (root.Faithful → hit.map Cursor.node = root.subtrees.find? Node.isDefect ∧
        hit.isSome = root.info.hasFault)) ∧
    (root.firstDefect = none ↔ root.info.hasFault = false) ∧
    (∀ automaton source, automaton.tree source = root → ∀ tree,
      parseWith automaton source = .ok tree ↔ tree = root ∧ root.info.hasFault = false) ∧
    (root.Faithful →
      root.firstDefect = (root.subtrees.find? Node.isDefect).map (fun defect =>
        defect.info.point) ∧
      root.countDefects = root.subtrees.countP Node.isDefect ∧
      (root.firstDefect = none ↔ root.countDefects = 0) ∧
      ∀ automaton source, automaton.tree source = root →
        (parseWith automaton source = .ok root ↔ root.countDefects = 0) ∧
        ∀ error, parseWith automaton source = .error error ↔
          ∃ defect, root.subtrees.find? Node.isDefect = some defect ∧
            error = .invalidSource ParseError.inlineSource (defect.info.point.row + 1)
              (defect.info.point.column + 1)) := by
  refine ⟨?_, Node.firstDefect_eq_none_iff, ?_, fun faithful => ⟨Node.firstDefect_eq faithful,
    Node.countDefects_eq faithful, ?_, ?_⟩⟩
  · obtain ⟨hit, seeks, isHit⟩ := Node.exists_seeks_root root
    refine ⟨hit, seeks, fun flagged => ?_, fun faithful => ⟨isHit faithful, ?_⟩⟩
    · rw [Node.firstDefect, if_pos flagged, seeks.searchDefect root rfl]
    · rw [Bool.eq_iff_iff, faithful.hasFault_iff, ← isHit faithful, Option.isSome_map]
  · rintro automaton source rfl tree
    rw [parseWith_eq_ok_iff]
    constructor
    · rintro ⟨rfl, sound⟩
      exact ⟨rfl, sound⟩
    · rintro ⟨rfl, sound⟩
      exact ⟨rfl, sound⟩
  · rw [Node.firstDefect_eq_none_iff, Node.countDefects_eq_zero_iff faithful]
  · rintro automaton source rfl
    refine ⟨?_, fun error => ?_⟩
    · rw [parseWith_eq_ok_iff, Node.countDefects_eq_zero_iff faithful]
      exact and_iff_right rfl
    · rw [parseWith_eq_error_iff, Node.firstDefect_eq faithful]
      constructor
      · rintro ⟨point, known, rfl⟩
        obtain ⟨defect, isFirst, rfl⟩ := Option.map_eq_some_iff.mp known
        exact ⟨defect, isFirst, rfl⟩
      · rintro ⟨defect, isFirst, rfl⟩
        exact ⟨defect.info.point, by rw [isFirst]; rfl, rfl⟩

namespace TwoDefects

def node (kind : String) (start : Nat) (fault missing hasFault : Bool) (children : List Node) :
    Node :=
  .mk { kind, named := true, start, stop := start + 1, point := ⟨0, start⟩, field := none, fault,
        missing, hasFault } children

def sound : Node := node "expression_statement" 0 false false false
  [node "identifier" 0 false false false []]

/-- Text that fits nowhere, and a token that is lacking. -/
def faulty : Node := node "expression_statement" 3 false false true
  [node "identifier" 3 false false false [],
    node "ERROR" 5 true false true [node "identifier" 5 false false false []],
    node ";" 8 false true true []]

def root : Node := node "program" 0 false false true [sound, faulty]

theorem faithful : root.Faithful := by
  unfold Node.Faithful
  decide

end TwoDefects

theorem defects_agree_with_descent_twice :
    TwoDefects.root.Faithful ∧ TwoDefects.root.firstDefect = some ⟨0, 5⟩ ∧
      TwoDefects.root.countDefects = 2 := by
  obtain ⟨first, count, _⟩ := (defects_agree_with_descent TwoDefects.root).2.2.2 TwoDefects.faithful
  rw [first, count]
  exact ⟨TwoDefects.faithful, by decide, by decide⟩

end EnvAudit
