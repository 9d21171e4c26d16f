import EnvAudit.Proofs.Reference.SourceOrder

/-!
# Where a reference stands

A reference stands at the first byte of the expression that reads the variable.  This is where
`process` begins, unless there are parentheses around `process` or `process.env`; then it is the
first of these parentheses.
-/

namespace EnvAudit

namespace Node

/-- The node is `process.env.NAME` for a name, up to parentheses: the first of the other nodes is
its object, the second is the object of `process.env`, and the last is `process`. -/
def ReadsThrough (node : Node) (source : Source) (name : String) (object base process : Node) :
    Prop :=
  ∃ property inner env,
    node.IsMember object property ∧ object.Peels inner ∧
    inner.IsMember base env ∧ base.Peels process ∧
    process.Spells source "identifier" "process" ∧
    env.Spells source "property_identifier" "env" ∧
    property.Spells source "property_identifier" name

theorem reads_iff_exists_through {node : Node} {source : Source} {name : String} :
    node.Reads source name ↔ ∃ object base process,
      node.ReadsThrough source name object base process := by
  constructor
  · rintro ⟨object, property, inner, base, env, process, parts⟩
    exact ⟨object, base, process, property, inner, env, parts⟩
  · rintro ⟨object, base, process, property, inner, env, parts⟩
    exact ⟨object, property, inner, base, env, process, parts⟩

/-- The place of the first byte of a node; lines and columns count from one. -/
def place (node : Node) : ℕ ×ₗ ℕ :=
  toLex (node.info.point.row + 1, node.info.point.column + 1)

/-- Member expressions at and below a node begin where their objects do. -/
inductive Flush : Node → Prop
  | intro {node : Node}
      (begins : node.kind = "member_expression" →
        ∀ object, node.child? "object" = some object → node.start = object.start)
      (below : ∀ child ∈ node.children, Flush child) : Flush node

namespace Flush

variable {node found : Node}

theorem child (flush : node.Flush) {child : Node} (member : child ∈ node.children) : child.Flush := by
  cases flush with
  | intro _ below => exact below child member

theorem of_nodeAt? (flush : node.Flush) {way : List Nat}
    (leads : node.nodeAt? way = some found) : found.Flush := by
  induction way generalizing node with
  | nil =>
      cases leads
      exact flush
  | cons i way ih =>
      obtain ⟨child, known, leads⟩ := Option.bind_eq_some_iff.mp leads
      exact ih (flush.child (List.mem_of_getElem? known)) leads

theorem of_peels (flush : node.Flush) (peels : node.Peels found) : found.Flush := by
  induction peels with
  | stops _ => exact flush
  | enters _ known _ ih => exact ih (flush.child (List.mem_of_find?_eq_some known))

theorem start_eq (flush : node.Flush) {object property : Node}
    (member : node.IsMember object property) : node.start = object.start := by
  cases flush with
  | intro begins _ => exact begins member.kind object member.hasObject

end Flush

section Beginning

variable {source : Source} {node found object base process : Node} {name : String}

theorem place_lt_of_start_lt {text : String} (wellFormed : node.WellFormed (.ofText text))
    (foundFits : found.WellFormed (.ofText text)) (before : node.start < found.start) :
    node.place < found.place := by
  have less := Source.place_point_lt text before
  rw [← wellFormed.fits.point, ← foundFits.fits.point, Point.place, Point.place,
    Prod.Lex.toLex_lt_toLex] at less
  rw [place, place, Prod.Lex.toLex_lt_toLex]
  simp only at less ⊢
  omega

/-- What stands within parentheses begins behind the first of them. -/
theorem Peels.start_lt (peels : node.Peels found) (wellFormed : node.WellFormed source)
    (parentheses : node.kind = "parenthesized_expression")
    (inner : found.kind ≠ "parenthesized_expression") (noToken : found.kind ≠ "(") :
    node.start < found.start := by
  cases peels with
  | stops _ => exact absurd parentheses inner
  | @enters _ first _ _ known rest =>
      obtain ⟨opening, head, _, spells⟩ := wellFormed.fits.parenthesis parentheses
      obtain ⟨others, children⟩ := List.head?_eq_some_iff.mp head
      have isFirst : first ∈ node.children := List.mem_of_find?_eq_some known
      have inOthers : first ∈ others := by
        rw [children, List.mem_cons] at isFirst
        rcases isFirst with rfl | inOthers
        · have other : first.kind ≠ "parenthesized_expression" := by
            rw [spells.1]
            decide
          rw [rest.eq_of_not_parentheses other] at noToken
          exact absurd spells.1 noToken
        · exact inOthers
      have ordered := wellFormed.fits.ordered
      rw [children] at ordered
      have behind := List.rel_of_pairwise_cons ordered inOthers
      have isOpening : opening ∈ node.children := by simp [children]
      have starts := (wellFormed.within_child isOpening).starts
      have wide := (spells.bounds (by decide)).1
      have within := (Within.of_peels (wellFormed.within_child isFirst).wellFormed rest).starts
      omega

/-- An expression that reads a variable begins at or before its `process`, and there just if
neither `process` nor `process.env` is within parentheses. -/
theorem ReadsThrough.start_le_and_eq_iff
    (through : node.ReadsThrough source name object base process)
    (wellFormed : node.WellFormed source) (flush : node.Flush) :
    node.start ≤ process.start ∧ (node.start = process.start ↔
      object.kind ≠ "parenthesized_expression" ∧ base.kind ≠ "parenthesized_expression") := by
  obtain ⟨property, inner, env, member, peels, middle, peelsBase, isProcess, _⟩ := through
  have inNode := member.within_object wellFormed
  have inObject := Within.of_peels inNode.wellFormed peels
  have inEnv := middle.within_object inObject.wellFormed
  have inBase := Within.of_peels inEnv.wellFormed peelsBase
  have objectFlush := flush.child (List.mem_of_find?_eq_some member.hasObject)
  have atObject := flush.start_eq member
  have atBase := (objectFlush.of_peels peels).start_eq middle
  have behindObject := inObject.starts
  have behindBase := inBase.starts
  refine ⟨by omega, ?_⟩
  constructor
  · intro same
    constructor
    · intro parentheses
      have := peels.start_lt inNode.wellFormed parentheses (by rw [middle.kind]; decide)
        (by rw [middle.kind]; decide)
      omega
    · intro parentheses
      have := peelsBase.start_lt inEnv.wellFormed parentheses (by rw [isProcess.1]; decide)
        (by rw [isProcess.1]; decide)
      omega
  · rintro ⟨objectBare, baseBare⟩
    rw [atObject, ← peels.eq_of_not_parentheses objectBare, atBase,
      ← peelsBase.eq_of_not_parentheses baseBare]

theorem ReadsThrough.within_process (through : node.ReadsThrough source name object base process)
    (wellFormed : node.WellFormed source) : process.WellFormed source := by
  obtain ⟨_, _, _, member, peels, middle, peelsBase, _⟩ := through
  have inNode := member.within_object wellFormed
  have inObject := Within.of_peels inNode.wellFormed peels
  have inEnv := middle.within_object inObject.wellFormed
  exact (Within.of_peels inEnv.wellFormed peelsBase).wellFormed

/-- The place of an expression that reads a variable, next to that of its `process`. -/
theorem ReadsThrough.place_le_and_eq_iff {text : String}
    (through : node.ReadsThrough (.ofText text) name object base process)
    (wellFormed : node.WellFormed (.ofText text)) (flush : node.Flush) :
    node.place ≤ process.place ∧ (node.place = process.place ↔
      object.kind ≠ "parenthesized_expression" ∧ base.kind ≠ "parenthesized_expression") := by
  obtain ⟨before, same⟩ := through.start_le_and_eq_iff wellFormed flush
  have processFits := through.within_process wellFormed
  rw [← same]
  rcases Nat.lt_or_eq_of_le before with less | equal
  · have placeLess := place_lt_of_start_lt wellFormed processFits less
    exact ⟨placeLess.le, fun eq => absurd eq placeLess.ne, fun eq => absurd eq less.ne⟩
  · have placeSame : node.place = process.place := by
      rw [place, place, wellFormed.fits.point, processFits.fits.point, equal]
    exact ⟨placeSame.le, fun _ => equal, fun _ => placeSame⟩

end Beginning

end Node

/-- A reference stands at the first byte of an expression that reads its variable.  In a tree that
fits its text this is never behind `process`, and it is the place of `process` just if neither
`process` nor `process.env` stands within parentheses. -/
theorem references_begin_expressions (text : String) (tree : Node) (reference : Reference)
    (member : reference ∈ tree.references (.ofText text)) :
    ∃ way node object base process,
      tree.nodeAt? way = some node ∧ tree.Exposed way ∧
      node.ReadsThrough (.ofText text) reference.name object base process ∧
      reference.line = node.info.point.row + 1 ∧ reference.column = node.info.point.column + 1 ∧
      (tree.WellFormed (.ofText text) → tree.Flush →
        reference.place ≤ process.place ∧ (reference.place = process.place ↔
          object.kind ≠ "parenthesized_expression" ∧
            base.kind ≠ "parenthesized_expression")) := by
  rw [tree.references_eq] at member
  obtain ⟨⟨way, node⟩, reached, isReference⟩ := List.mem_filterMap.mp member
  obtain ⟨reads, line, column⟩ := Node.reference?_eq_some_iff.mp isReference
  obtain ⟨object, base, process, through⟩ := Node.reads_iff_exists_through.mp reads
  obtain ⟨leads, exposed⟩ := Node.mem_reached_iff.mp reached
  refine ⟨way, node, object, base, process, leads, exposed, through, line, column, ?_⟩
  intro wellFormed flush
  have place : reference.place = node.place := by rw [Reference.place, Node.place, line, column]
  have fits := (Node.Within.of_nodeAt? wellFormed leads).wellFormed
  rw [place]
  exact through.place_le_and_eq_iff fits (flush.of_nodeAt? leads)

namespace LongChain

theorem references_both : both.references source = [⟨"A", 1, 1⟩, ⟨"C", 1, 20⟩] := by
  rw [Node.references_eq_readers]
  decide +kernel

theorem flush_node {kind : String} {start stop : Nat} {field : Option String}
    {children : List Node} (other : kind ≠ "member_expression")
    (below : ∀ child ∈ children, child.Flush) : (node kind start stop field children).Flush :=
  .intro (fun member => absurd member other) below

theorem flush_member {object : Node} {start stop : Nat} (flush : object.Flush)
    (isObject : object.info.field = some "object") : (member object start stop).Flush := by
  have property : (node "property_identifier" start stop (some "property") []).Flush :=
    flush_node (by decide) (by simp)
  refine .intro (fun _ found known => ?_) (by simpa [member, node] using ⟨flush, property⟩)
  have first : (member object start stop).child? "object" = some object := by
    simp [member, node, Node.child?, isObject]
  cases first.symm.trans known
  rfl

theorem flush_both : both.Flush := by
  have inner : env.Flush := flush_member (flush_node (by decide) (by simp)) rfl
  have opening : (node "(" 0 1 none []).Flush := flush_node (by decide) (by simp)
  have closing : (node ")" 12 13 none []).Flush := flush_node (by decide) (by simp)
  have comma : (node "," 17 18 none []).Flush := flush_node (by decide) (by simp)
  have enclosed : parentheses.Flush :=
    flush_node (by decide) (by simp [inner, opening, closing])
  have isWhole : whole.Flush := flush_member (flush_member enclosed rfl) rfl
  have isLater : later.Flush :=
    flush_member (flush_member (flush_node (by decide) (by simp)) rfl) rfl
  exact flush_node (by decide) (by simp [isWhole, comma, isLater])

end LongChain

theorem references_begin_expressions_bare :
    ⟨"C", 1, 20⟩ ∈ LongChain.both.references LongChain.source ∧
      ∃ node object base process : Node,
        node.ReadsThrough LongChain.source "C" object base process ∧
        toLex (1, 20) ≤ process.place ∧ (toLex (1, 20) = process.place ↔
          object.kind ≠ "parenthesized_expression" ∧
            base.kind ≠ "parenthesized_expression") := by
  have member : ⟨"C", 1, 20⟩ ∈ LongChain.both.references LongChain.source := by
    simp [LongChain.references_both]
  obtain ⟨_, node, object, base, process, _, _, through, _, _, placed⟩ :=
    references_begin_expressions LongChain.text LongChain.both _ member
  exact ⟨member, node, object, base, process, through,
    placed LongChain.wellFormed_both LongChain.flush_both⟩

/-- With `process.env` in parentheses, the reference does not stand at `process`. -/
theorem reference_before_process :
    LongChain.both.WellFormed LongChain.source ∧ LongChain.both.Flush ∧
      ⟨"A", 1, 1⟩ ∈ LongChain.both.references LongChain.source ∧
      LongChain.both.nodeAt? [0, 0] = some LongChain.reading ∧
      LongChain.reading.ReadsThrough LongChain.source "A" LongChain.parentheses
        LongChain.process LongChain.process ∧
      LongChain.process.place = toLex (1, 2) := by
  refine ⟨LongChain.wellFormed_both, LongChain.flush_both, by simp [LongChain.references_both], rfl,
    ?_, by decide +kernel⟩
  exact ⟨_, LongChain.env, _, ⟨rfl, rfl, rfl, by decide⟩, Node.peels_iff.mpr rfl,
    ⟨rfl, rfl, rfl, by decide⟩, Node.peels_iff.mpr rfl, ⟨rfl, by decide +kernel⟩,
    ⟨rfl, by decide +kernel⟩, rfl, by decide +kernel⟩

end EnvAudit
