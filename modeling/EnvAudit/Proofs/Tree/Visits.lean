import EnvAudit.Reference
import Mathlib.Data.List.Nodup

/-!
# The walk of a tree

A cursor visits the nodes of a tree one by one.  It comes to an end, and before that it has been
at each node once that does not stand below a type query, and at no other node.  So the
references that are gathered on the way are those that a descent through the tree finds.
-/

namespace EnvAudit

namespace Node

/-- What holds of a node once it holds of its children holds of every node. -/
theorem induct {motive : Node → Prop}
    (step : ∀ info children, (∀ child ∈ children, motive child) → motive (.mk info children)) :
    ∀ node, motive node
  | .mk info children => step info children fun child _ => induct step child

/-- The node to which a way leads: the number of the child to go to, at each node on it. -/
def nodeAt? : Node → List Nat → Option Node
  | node, [] => some node
  | node, i :: way => node.children[i]?.bind fun child => child.nodeAt? way

/-- No node that a way passes before its end is a type query. -/
def Exposed (node : Node) (way : List Nat) : Prop :=
  ∀ before rest, way = before ++ rest → rest ≠ [] →
    ∀ above, node.nodeAt? before = some above → above.kind ≠ "type_query"

mutual

/-- The references at a node and below it, found by descent.  Nothing below a type query is
read at run time. -/
def referencesBelow (source : Source) : Node → List Reference
  | .mk info children =>
      (match (mk info children).variableName? source with
        | some name => [⟨name, info.point.row + 1, info.point.column + 1⟩]
        | none => []) ++
      if info.kind = "type_query" then [] else referencesAmong source children

/-- The references at nodes and below them, those of the first node first. -/
def referencesAmong (source : Source) : List Node → List Reference
  | [] => []
  | node :: nodes => referencesBelow source node ++ referencesAmong source nodes

end

mutual

/-- The nodes that a descent comes to, each with the way down to it. -/
def reached : Node → List (List Nat × Node)
  | .mk info children =>
      ([], .mk info children) ::
        if (mk info children).isRead then reachedAmong 0 children else []

/-- The nodes that a descent from several children comes to, the first of which has the given
number. -/
def reachedAmong : Nat → List Node → List (List Nat × Node)
  | _, [] => []
  | i, node :: nodes =>
      (reached node).map (Prod.map (i :: ·) id) ++ reachedAmong (i + 1) nodes

end

theorem isRead_iff {node : Node} : node.isRead = true ↔ node.kind ≠ "type_query" := by
  simp [isRead]

theorem exposed_nil (node : Node) : node.Exposed [] := by
  rintro before rest whole proper
  exact absurd (List.append_eq_nil_iff.mp whole.symm).2 proper

theorem exposed_cons {node child : Node} {i : Nat} {way : List Nat}
    (known : node.children[i]? = some child) :
    node.Exposed (i :: way) ↔ node.isRead = true ∧ child.Exposed way := by
  rw [isRead_iff]
  constructor
  · intro exposed
    refine ⟨exposed [] (i :: way) rfl (by simp) node rfl, fun before rest whole proper above => ?_⟩
    intro leads
    refine exposed (i :: before) rest (by rw [whole, List.cons_append]) proper above ?_
    rw [nodeAt?, known]
    exact leads
  · rintro ⟨read, exposed⟩ before rest whole proper above leads
    cases before with
    | nil =>
        cases leads
        exact read
    | cons j before =>
        obtain ⟨rfl, further⟩ := List.cons.inj whole
        rw [nodeAt?, known] at leads
        exact exposed before rest further proper above leads

theorem mem_reachedAmong_iff {nodes : List Node} {first : Nat} {way : List Nat} {found : Node} :
    (way, found) ∈ reachedAmong first nodes ↔ ∃ i child rest, way = (first + i) :: rest ∧
      nodes[i]? = some child ∧ (rest, found) ∈ child.reached := by
  induction nodes generalizing first with
  | nil => simp [reachedAmong]
  | cons node nodes ih =>
      rw [reachedAmong, List.mem_append, ih]
      constructor
      · rintro (here | ⟨i, child, rest, rfl, known, member⟩)
        · obtain ⟨⟨rest, _⟩, member, ⟨⟩⟩ := List.mem_map.mp here
          exact ⟨0, node, rest, rfl, rfl, member⟩
        · exact ⟨i + 1, child, rest, by rw [Nat.add_right_comm, Nat.add_assoc], known, member⟩
      · rintro ⟨i, child, rest, rfl, known, member⟩
        cases i with
        | zero =>
            cases known
            exact .inl (List.mem_map.mpr ⟨(rest, found), member, rfl⟩)
        | succ i =>
            exact .inr ⟨i, child, rest, by rw [Nat.add_right_comm, Nat.add_assoc], known, member⟩

/-- A descent comes to the nodes that do not stand below a type query. -/
theorem mem_reached_iff {node found : Node} {way : List Nat} :
    (way, found) ∈ node.reached ↔ node.nodeAt? way = some found ∧ node.Exposed way := by
  induction way generalizing node with
  | nil =>
      obtain ⟨info, children⟩ := node
      rw [reached, List.mem_cons]
      constructor
      · rintro (same | below)
        · cases same
          exact ⟨rfl, exposed_nil _⟩
        · split at below
          · obtain ⟨_, _, _, ⟨⟩, _⟩ := mem_reachedAmong_iff.mp below
          · cases below
      · rintro ⟨same, _⟩
        cases same
        exact .inl rfl
  | cons i way ih =>
      obtain ⟨info, children⟩ := node
      have inside : (i :: way, found) ∈ (mk info children).reached ↔
          (mk info children).isRead = true ∧
            ∃ child, children[i]? = some child ∧ (way, found) ∈ child.reached := by
        rw [reached, List.mem_cons]
        cases (mk info children).isRead with
        | false => simp
        | true => simp [mem_reachedAmong_iff]
      rw [inside]
      constructor
      · rintro ⟨read, child, known, member⟩
        obtain ⟨leads, exposed⟩ := ih.mp member
        have child? : (mk info children).children[i]? = some child := known
        refine ⟨?_, (exposed_cons child?).mpr ⟨read, exposed⟩⟩
        rw [nodeAt?, child?]
        exact leads
      · rintro ⟨leads, exposed⟩
        obtain ⟨child, known, leads⟩ := Option.bind_eq_some_iff.mp leads
        obtain ⟨read, exposed⟩ := (exposed_cons known).mp exposed
        exact ⟨read, child, known, ih.mpr ⟨leads, exposed⟩⟩

theorem nodup_reachedAmong {nodes : List Node}
    (each : ∀ node ∈ nodes, (node.reached.map Prod.fst).Nodup) (first : Nat) :
    ((reachedAmong first nodes).map Prod.fst).Nodup := by
  induction nodes generalizing first with
  | nil => exact List.nodup_nil
  | cons node nodes ih =>
      obtain ⟨here, others⟩ := List.forall_mem_cons.mp each
      have renamed : (node.reached.map (Prod.map (first :: ·) id)).map Prod.fst =
          (node.reached.map Prod.fst).map (first :: ·) := by
        rw [List.map_map, List.map_map]
        rfl
      rw [reachedAmong, List.map_append, renamed, List.nodup_append]
      refine ⟨here.map (fun _ _ same => (List.cons.inj same).2), ih others (first + 1), ?_⟩
      -- The numbers of the other children are greater.
      rintro way inHere _ inOthers rfl
      obtain ⟨rest, _, rfl⟩ := List.mem_map.mp inHere
      obtain ⟨⟨_, found⟩, member, ⟨⟩⟩ := List.mem_map.mp inOthers
      obtain ⟨i, _, _, same, _⟩ := mem_reachedAmong_iff.mp member
      have := (List.cons.inj same).1
      omega

/-- A descent comes to no place twice. -/
theorem nodup_reached (node : Node) : (node.reached.map Prod.fst).Nodup := by
  induction node using induct with
  | step info children ih =>
      rw [reached, List.map_cons, List.nodup_cons]
      split
      · refine ⟨fun top => ?_, nodup_reachedAmong ih 0⟩
        obtain ⟨⟨_, found⟩, member, ⟨⟩⟩ := List.mem_map.mp top
        obtain ⟨_, _, _, ⟨⟩, _⟩ := mem_reachedAmong_iff.mp member
      · exact ⟨by simp, List.nodup_nil⟩

/-- The references found by descent are those at the nodes that a descent comes to. -/
theorem referencesBelow_eq (source : Source) (node : Node) :
    node.referencesBelow source =
      node.reached.filterMap fun place => place.2.reference? source := by
  induction node using induct with
  | step info children ih =>
      have among (first : Nat) : referencesAmong source children =
          (reachedAmong first children).filterMap fun place => place.2.reference? source := by
        induction children generalizing first with
        | nil => rfl
        | cons child children ihAmong =>
            obtain ⟨here, others⟩ := List.forall_mem_cons.mp ih
            rw [referencesAmong, reachedAmong, List.filterMap_append, List.filterMap_map, here,
              ihAmong others (first + 1)]
            rfl
      have here : (match (mk info children).variableName? source with
          | some name => [⟨name, info.point.row + 1, info.point.column + 1⟩]
          | none => []) = ((mk info children).reference? source).toList := by
        rw [reference?]
        cases (mk info children).variableName? source <;> rfl
      have below : (if info.kind = "type_query" then [] else referencesAmong source children) =
          (if (mk info children).isRead then reachedAmong 0 children else []).filterMap
            fun place => place.2.reference? source := by
        have read : (mk info children).isRead = true ↔ ¬ info.kind = "type_query" := isRead_iff
        simp only [read, ite_not, among 0]
        split <;> rfl
      rw [referencesBelow, reached, List.filterMap_cons, here, below]
      cases (mk info children).reference? source <;> simp

end Node

namespace Cursor

/-- The nodes that a cursor visits from a node on, until there is none to go to. -/
inductive Visits : Option Cursor → List Cursor → Prop
  | ended : Visits none []
  | goes {cursor : Cursor} {others : List Cursor}
      (rest : Visits (cursor.next? cursor.node.isRead) others) :
      Visits (some cursor) (cursor :: others)

/-- The way down to a child that the given siblings come after, below the given nodes. -/
def wayTo : (after : List Node) → (above : List (Node × List Node)) → List Nat
  | _, [] => []
  | after, (parent, parentAfter) :: above =>
      wayTo parentAfter above ++ [parent.children.length - (after.length + 1)]

/-- The way from the root down to the node of a cursor. -/
def way (cursor : Cursor) : List Nat :=
  wayTo cursor.after cursor.above

variable {above : List (Node × List Node)} {after : List Node} {others : List Cursor}

theorem way_mk (node : Node) (after : List Node) (above : List (Node × List Node)) :
    way ⟨node, after, above⟩ = wayTo after above :=
  rfl

/-- Going below a node is going to the first child, or else on from behind the last one. -/
theorem next?_true (node : Node) (after : List Node) (above : List (Node × List Node)) :
    next? ⟨node, after, above⟩ true = leaveTo? node.children ((node, after) :: above) := by
  rw [next?, if_pos rfl, firstChild?]
  cases node.children <;> rfl

/-- From the children of a node the cursor visits what a descent comes to, and goes on. -/
theorem visits_among {parent : Node} {first : Nat} {nodes : List Node}
    (each : ∀ node ∈ nodes, ∀ after above others, Visits (leaveTo? after above) others →
      ∃ inner, Visits (some ⟨node, after, above⟩) (inner ++ others) ∧
        inner.map (fun cursor => (cursor.way, cursor.node)) =
          node.reached.map (Prod.map (wayTo after above ++ ·) id))
    (count : parent.children.length = first + nodes.length)
    (rest : Visits (leaveTo? after above) others) :
    ∃ inner, Visits (leaveTo? nodes ((parent, after) :: above)) (inner ++ others) ∧
      inner.map (fun cursor => (cursor.way, cursor.node)) =
        (Node.reachedAmong first nodes).map (Prod.map (wayTo after above ++ ·) id) := by
  induction nodes generalizing first with
  | nil => exact ⟨[], rest, rfl⟩
  | cons node nodes ih =>
      obtain ⟨here, further⟩ := List.forall_mem_cons.mp each
      rw [List.length_cons] at count
      have countBehind : parent.children.length = (first + 1) + nodes.length := by omega
      obtain ⟨behind, visitsBehind, waysBehind⟩ := ih further countBehind
      obtain ⟨inner, visits, ways⟩ := here nodes ((parent, after) :: above) _ visitsBehind
      have number : parent.children.length - (nodes.length + 1) = first := by omega
      refine ⟨inner ++ behind, by rwa [List.append_assoc], ?_⟩
      rw [List.map_append, ways, waysBehind, Node.reachedAmong, List.map_append, List.map_map]
      simp only [wayTo, number, List.append_assoc, List.singleton_append]
      rfl

/-- From a node the cursor visits what a descent comes to, and goes on behind the node. -/
theorem visits_node (node : Node) (after : List Node) (above : List (Node × List Node))
    (others : List Cursor) (rest : Visits (leaveTo? after above) others) :
    ∃ inner, Visits (some ⟨node, after, above⟩) (inner ++ others) ∧
      inner.map (fun cursor => (cursor.way, cursor.node)) =
        node.reached.map (Prod.map (wayTo after above ++ ·) id) := by
  induction node using Node.induct generalizing after above others with
  | step info children ih =>
      rw [Node.reached]
      cases read : (Node.mk info children).isRead with
      | false =>
          refine ⟨[⟨.mk info children, after, above⟩], .goes ?_, by simp [way_mk]⟩
          rw [read]
          exact rest
      | true =>
          have count : (Node.mk info children).children.length = 0 + children.length := by simp
          obtain ⟨inner, visits, ways⟩ := visits_among ih count rest
          refine ⟨⟨.mk info children, after, above⟩ :: inner, .goes ?_, by simp [way_mk, ways]⟩
          rw [read, next?_true]
          exact visits

/-- The walk gathers the references at the nodes that the cursor visits. -/
theorem Visits.collectReferences {start : Option Cursor} {visits : List Cursor}
    (run : Visits start visits) (source : Source) {cursor : Cursor} (begins : start = some cursor)
    (found : Array Reference) :
    (Node.collectReferences source cursor found).toList =
      found.toList ++ visits.filterMap fun visit => visit.node.reference? source := by
  induction run generalizing cursor found with
  | ended => cases begins
  | @goes here others rest ih =>
      cases begins
      rw [Node.collectReferences, List.filterMap_cons]
      cases next : here.next? here.node.isRead with
      | none =>
          rw [next] at rest
          cases rest
          cases here.node.reference? source <;> simp
      | some further =>
          rw [ih next]
          cases here.node.reference? source <;> simp

end Cursor

/-- The run of a cursor from the root comes to the places that a descent comes to. -/
theorem Node.exists_visits (root : Node) : ∃ visits, Cursor.Visits (some (.ofRoot root)) visits ∧
    visits.map (fun cursor => (cursor.way, cursor.node)) = root.reached := by
  obtain ⟨visits, run, placed⟩ := Cursor.visits_node root [] [] [] .ended
  have unchanged : Prod.map ([] ++ ·) id = (id : List Nat × Node → List Nat × Node) := rfl
  rw [List.append_nil] at run
  rw [Cursor.wayTo, unchanged, List.map_id] at placed
  exact ⟨visits, run, placed⟩

/-- The walk of a tree gathers the references at the nodes that a descent comes to. -/
theorem Node.references_eq (root : Node) (source : Source) :
    root.references source = root.reached.filterMap fun place => place.2.reference? source := by
  obtain ⟨visits, run, placed⟩ := root.exists_visits
  rw [Node.references, run.collectReferences source rfl, ← placed, List.filterMap_map]
  rfl

/-- The walk of a tree ends.  It visits each node that does not stand below a type query, once,
and no other node.  The references that it gathers are those that a descent finds. -/
theorem walk_is_descent (root : Node) (source : Source) :
    ∃ visits, Cursor.Visits (some (.ofRoot root)) visits ∧
      (visits.map Cursor.way).Nodup ∧
      (∀ way, way ∈ visits.map Cursor.way ↔
        (root.nodeAt? way).isSome = true ∧ root.Exposed way) ∧
      (∀ cursor ∈ visits, root.nodeAt? cursor.way = some cursor.node) ∧
      root.references source = visits.filterMap (fun cursor => cursor.node.reference? source) ∧
      root.references source = root.referencesBelow source := by
  obtain ⟨visits, run, placed⟩ := root.exists_visits
  have ways : visits.map Cursor.way = root.reached.map Prod.fst := by
    rw [← placed, List.map_map]
    rfl
  have gathered : root.references source =
      visits.filterMap fun cursor => cursor.node.reference? source := by
    rw [root.references_eq, ← placed, List.filterMap_map]
    rfl
  have descent : root.references source = root.referencesBelow source := by
    rw [root.references_eq, root.referencesBelow_eq]
  refine ⟨visits, run, ways ▸ root.nodup_reached, fun way => ?_, fun cursor visited => ?_,
    gathered, descent⟩
  · rw [ways, List.mem_map, Option.isSome_iff_exists]
    constructor
    · rintro ⟨⟨_, found⟩, member, rfl⟩
      obtain ⟨leads, exposed⟩ := Node.mem_reached_iff.mp member
      exact ⟨⟨found, leads⟩, exposed⟩
    · rintro ⟨⟨found, leads⟩, exposed⟩
      exact ⟨(way, found), Node.mem_reached_iff.mpr ⟨leads, exposed⟩, rfl⟩
  · have member : (cursor.way, cursor.node) ∈ root.reached := by
      rw [← placed]
      exact List.mem_map.mpr ⟨cursor, visited, rfl⟩
    exact (Node.mem_reached_iff.mp member).1

end EnvAudit
