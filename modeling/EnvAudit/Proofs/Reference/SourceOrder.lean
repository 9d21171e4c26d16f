import EnvAudit.Proofs.Check.SingleText
import EnvAudit.Proofs.Parsing.Position
import EnvAudit.Proofs.Reference.Matching
import Mathlib.Order.Bounds.Basic

/-!
# References in the order of the text

In a tree that fits its text, an expression that reads a variable begins before every other one
below it: on the way down its left side there is no other.  So references come at ever later places,
and the first one of a name stands before all others of it.
-/

namespace EnvAudit

/-- A reference's place, with its line before its column. -/
def Reference.place (reference : Reference) : ℕ ×ₗ ℕ :=
  toLex (reference.line, reference.column)

/-- A location's place in its file, with its line before its column. -/
def Location.place (location : Location) : ℕ ×ₗ ℕ :=
  toLex (location.line, location.column)

namespace Node

/-- A node fits the text by its own bytes and by those of its children. -/
structure Fits (source : Source) (node : Node) : Prop where
  forward : node.start ≤ node.stop
  inside : ∀ child ∈ node.children, node.start ≤ child.start ∧ child.stop ≤ node.stop
  ordered : node.children.Pairwise fun first second => first.stop ≤ second.start
  /-- A member expression begins with its object. -/
  object : node.kind = "member_expression" → node.children.head? = node.child? "object"
  parenthesis : node.kind = "parenthesized_expression" → ∃ first,
    node.children.head? = some first ∧ first.children = [] ∧ first.Spells source "(" "("
  leaf : node.kind = "identifier" → node.children = []
  point : node.info.point = source.point node.start

/-- A node and all nodes below it fit the text. -/
inductive WellFormed (source : Source) : Node → Prop
  | intro {node : Node} (fits : Fits source node)
      (below : ∀ child ∈ node.children, WellFormed source child) : WellFormed source node

/-- The nodes at and below a node that read a variable, in the order of a descent. -/
def readers (source : Source) (node : Node) : List Node :=
  (node.reached.map Prod.snd).filter fun found => (found.variableName? source).isSome

/-- Every node at or below the given one that reads a variable begins behind its first byte. -/
def OpensBefore (source : Source) (node : Node) : Prop :=
  ∀ found ∈ node.readers source, node.start < found.start

section Texts

theorem utf8ByteSize_ofList_cons (c : Char) (letters : List Char) :
    (String.ofList (c :: letters)).utf8ByteSize =
      c.utf8Size + (String.ofList letters).utf8ByteSize := by
  have joined : String.ofList (c :: letters) = String.singleton c ++ String.ofList letters := by
    rw [String.singleton_eq_ofList, ← String.ofList_append]
    rfl
  rw [joined, String.utf8ByteSize_append, String.utf8ByteSize_singleton]

theorem extract_behind {letters : List Char} {i first last : String.Pos.Raw}
    (behind : i.byteIdx + (String.ofList letters).utf8ByteSize ≤ first.byteIdx) :
    String.Pos.Raw.extract.go₁ letters i first last = [] := by
  induction letters generalizing i with
  | nil => rfl
  | cons c letters ih =>
      have positive := Char.utf8Size_pos c
      rw [utf8ByteSize_ofList_cons] at behind
      have other : i ≠ first := by
        rintro rfl
        omega
      rw [String.Pos.Raw.extract.go₁, if_neg other]
      refine ih ?_
      rw [String.Pos.Raw.byteIdx_add_char]
      omega

/-- A node that covers some text ends behind its beginning, and begins in the text. -/
theorem bounds_of_text {node : Node} {source : Source} (covers : node.text source ≠ "") :
    node.start < node.stop ∧ node.start < source.size := by
  by_contra outside
  refine covers ?_
  rw [text, slice, String.Pos.Raw.extract]
  split
  · rfl
  · rename_i proper
    replace proper : ¬ node.stop ≤ node.start := proper
    rw [extract_behind, String.ofList_nil]
    simp only [String.ofList_toList, String.Pos.Raw.byteIdx_zero]
    simp only [Source.size] at outside
    omega

theorem Spells.bounds {node : Node} {source : Source} {kind text : String}
    (spells : node.Spells source kind text) (covers : text ≠ "") :
    node.start < node.stop ∧ node.start < source.size :=
  bounds_of_text (by rw [spells.2]; exact covers)

end Texts

section Descent

variable {source : Source} {node found : Node}

theorem reachedAmong_snd (first : Nat) (nodes : List Node) :
    (reachedAmong first nodes).map Prod.snd =
      nodes.flatMap fun node => node.reached.map Prod.snd := by
  induction nodes generalizing first with
  | nil => rfl
  | cons node nodes ih =>
      rw [reachedAmong, List.map_append, List.map_map, ih, List.flatMap_cons]
      rfl

theorem readers_eq (source : Source) (node : Node) : node.readers source =
    (if (node.variableName? source).isSome then [node] else []) ++
      if node.isRead then node.children.flatMap (readers source) else [] := by
  obtain ⟨info, children⟩ := node
  have among : ((reachedAmong 0 children).map Prod.snd).filter
      (fun found => (found.variableName? source).isSome) = children.flatMap (readers source) := by
    rw [reachedAmong_snd, List.filter_flatMap]
    rfl
  have below : ((if (mk info children).isRead then reachedAmong 0 children else []).map
      Prod.snd).filter (fun found => (found.variableName? source).isSome) =
        if (mk info children).isRead then children.flatMap (readers source) else [] := by
    split
    · exact among
    · rfl
  rw [readers, reached, List.map_cons, List.filter_cons, below]
  cases ((mk info children).variableName? source).isSome <;> rfl

theorem mem_readers_iff : found ∈ node.readers source ↔
    (∃ name, found.Reads source name) ∧ ∃ way, (way, found) ∈ node.reached := by
  rw [readers, List.mem_filter, Option.isSome_iff_exists]
  simp [variableName?_eq_some_iff, and_comm]

theorem readers_of_leaf (leaf : node.children = []) : node.readers source = [] := by
  have nothing : node.variableName? source = none := by
    rw [Option.eq_none_iff_forall_ne_some]
    intro name matched
    obtain ⟨_, _, _, _, _, _, member, _⟩ := variableName?_eq_some_iff.mp matched
    have known := member.hasObject
    rw [child?, leaf] at known
    cases known
  rw [readers_eq, nothing, leaf]
  simp

theorem mem_readers_children (member : found ∈ node.readers source)
    (nothing : node.variableName? source = none) :
    ∃ child ∈ node.children, found ∈ child.readers source := by
  rw [readers_eq, nothing] at member
  simp only [Option.isSome_none, Bool.false_eq_true, ↓reduceIte, List.nil_append] at member
  split at member
  · exact List.mem_flatMap.mp member
  · cases member

end Descent

/-- A node fits the text within the bytes of another one. -/
structure Within (source : Source) (found node : Node) : Prop where
  wellFormed : found.WellFormed source
  starts : node.start ≤ found.start
  stops : found.stop ≤ node.stop

namespace WellFormed

variable {source : Source} {node found : Node}

theorem fits (wellFormed : node.WellFormed source) : node.Fits source := by
  cases wellFormed
  assumption

theorem within_self (wellFormed : node.WellFormed source) : Within source node node :=
  ⟨wellFormed, Nat.le_refl _, Nat.le_refl _⟩

theorem within_child (wellFormed : node.WellFormed source) {child : Node}
    (member : child ∈ node.children) : Within source child node := by
  obtain ⟨starts, stops⟩ := wellFormed.fits.inside child member
  cases wellFormed with
  | intro _ below => exact ⟨below child member, starts, stops⟩

end WellFormed

namespace Within

variable {source : Source} {outer node found : Node}

theorem trans (inner : Within source found node) (further : Within source node outer) :
    Within source found outer where
  wellFormed := inner.wellFormed
  starts := Nat.le_trans further.starts inner.starts
  stops := Nat.le_trans inner.stops further.stops

/-- A node covers some text if a node within it does. -/
theorem wide (within : Within source found node) (inner : found.start < found.stop) :
    node.start < node.stop := by
  have := within.starts
  have := within.stops
  omega

theorem of_nodeAt? (wellFormed : node.WellFormed source) {way : List Nat}
    (leads : node.nodeAt? way = some found) : Within source found node := by
  induction way generalizing node with
  | nil =>
      cases leads
      exact wellFormed.within_self
  | cons i way ih =>
      obtain ⟨child, known, leads⟩ := Option.bind_eq_some_iff.mp leads
      have below := wellFormed.within_child (List.mem_of_getElem? known)
      exact (ih below.wellFormed leads).trans below

theorem of_peels (wellFormed : node.WellFormed source) (peels : node.Peels found) :
    Within source found node := by
  induction peels with
  | stops _ => exact wellFormed.within_self
  | enters _ known _ ih =>
      have below := wellFormed.within_child (List.mem_of_find?_eq_some known)
      exact (ih below.wellFormed).trans below

theorem of_mem_readers (wellFormed : node.WellFormed source)
    (member : found ∈ node.readers source) : Within source found node := by
  obtain ⟨_, way, reached⟩ := mem_readers_iff.mp member
  exact of_nodeAt? wellFormed (mem_reached_iff.mp reached).1

end Within

section Spine

variable {source : Source} {node first found : Node} {name : String}

theorem lt_start_of_later (wellFormed : node.WellFormed source) {others : List Node}
    (children : node.children = first :: others) (wide : first.start < first.stop)
    (opens : first.OpensBefore source) (member : found ∈ node.children.flatMap (readers source)) :
    node.start < found.start := by
  rw [children, List.flatMap_cons, List.mem_append] at member
  have isFirst : first ∈ node.children := by simp [children]
  have inFirst := wellFormed.within_child isFirst
  have starts := inFirst.starts
  rcases member with here | later
  · have := opens found here
    omega
  · obtain ⟨child, inOthers, member⟩ := List.mem_flatMap.mp later
    have ordered := wellFormed.fits.ordered
    rw [children] at ordered
    have behind := List.rel_of_pairwise_cons ordered inOthers
    have isChild : child ∈ node.children := by simp [children, inOthers]
    have inChild := wellFormed.within_child isChild
    have := (Within.of_mem_readers inChild.wellFormed member).starts
    omega

theorem opensBefore_of_not_reading (wellFormed : node.WellFormed source) {others : List Node}
    (children : node.children = first :: others) (wide : first.start < first.stop)
    (opens : first.OpensBefore source) (nothing : node.variableName? source = none) :
    node.OpensBefore source := by
  intro found member
  obtain ⟨child, isChild, inChild⟩ := mem_readers_children member nothing
  exact lt_start_of_later wellFormed children wide opens
    (List.mem_flatMap.mpr ⟨child, isChild, inChild⟩)

theorem opensBefore_of_leaf (leaf : node.children = []) : node.OpensBefore source := by
  rintro found member
  rw [readers_of_leaf leaf] at member
  cases member

theorem opensBefore_of_parentheses (wellFormed : node.WellFormed source)
    (parentheses : node.kind = "parenthesized_expression") : node.OpensBefore source := by
  obtain ⟨first, head, leaf, spells⟩ := wellFormed.fits.parenthesis parentheses
  obtain ⟨others, children⟩ := List.head?_eq_some_iff.mp head
  exact opensBefore_of_not_reading wellFormed children (spells.bounds (by decide)).1
    (opensBefore_of_leaf leaf) (variableName?_of_not_member (by rw [parentheses]; decide))

theorem Peels.eq_of_not_parentheses (peels : node.Peels found)
    (other : node.kind ≠ "parenthesized_expression") : found = node := by
  cases peels with
  | stops _ => rfl
  | enters parentheses _ _ => exact absurd parentheses other

theorem opensBefore_of_peels (wellFormed : node.WellFormed source) (peels : node.Peels found)
    (opens : found.OpensBefore source) : node.OpensBefore source := by
  by_cases parentheses : node.kind = "parenthesized_expression"
  · exact opensBefore_of_parentheses wellFormed parentheses
  · rwa [← peels.eq_of_not_parentheses parentheses]

theorem IsMember.children {object property : Node} (member : node.IsMember object property)
    (wellFormed : node.WellFormed source) : ∃ others, node.children = object :: others := by
  have head := wellFormed.fits.object member.kind
  rw [member.hasObject] at head
  exact List.head?_eq_some_iff.mp head

theorem IsMember.within_object {object property : Node} (member : node.IsMember object property)
    (wellFormed : node.WellFormed source) : Within source object node :=
  wellFormed.within_child (List.mem_of_find?_eq_some member.hasObject)

/-- An expression that reads a variable begins in the text, and in front of all others below it. -/
theorem Reads.opens (reads : node.Reads source name) (wellFormed : node.WellFormed source) :
    node.start < node.stop ∧ node.start < source.size ∧
      ∀ found ∈ node.children.flatMap (readers source), node.start < found.start := by
  obtain ⟨object, property, env, base, _, process, member, peels, middle, peelsBase, isProcess,
    _⟩ := id reads
  obtain ⟨others, children⟩ := member.children wellFormed
  have inNode := member.within_object wellFormed
  have inObject := Within.of_peels inNode.wellFormed peels
  obtain ⟨inner, envChildren⟩ := middle.children inObject.wellFormed
  have inEnv := middle.within_object inObject.wellFormed
  have inBase := Within.of_peels inEnv.wellFormed peelsBase
  have whole := inBase.trans (inEnv.trans (inObject.trans inNode))
  obtain ⟨proper, inText⟩ := isProcess.bounds (by decide)
  have baseWide := inBase.wide proper
  have objectWide := inObject.wide (inEnv.wide baseWide)
  -- On the way down to `process` only the whole expression reads a variable.
  have baseOpens : base.OpensBefore source := opensBefore_of_peels inEnv.wellFormed peelsBase
    (opensBefore_of_leaf (inBase.wellFormed.fits.leaf isProcess.1))
  have chain : [node, env].IsChain Links := by simp [member.links peels]
  have nothing : env.variableName? source = none := by simpa using reads.filterMap_behind chain
  have objectOpens : object.OpensBefore source := opensBefore_of_peels inNode.wellFormed peels
    (opensBefore_of_not_reading inObject.wellFormed envChildren baseWide baseOpens nothing)
  exact ⟨whole.wide proper, Nat.lt_of_le_of_lt whole.starts inText, fun found member =>
    lt_start_of_later wellFormed children objectWide objectOpens member⟩

theorem pairwise_readers_children (wellFormed : node.WellFormed source)
    (each : ∀ child ∈ node.children,
      (child.readers source).Pairwise fun first second => first.start < second.start) :
    (node.children.flatMap (readers source)).Pairwise
      fun first second => first.start < second.start := by
  rw [List.pairwise_flatMap]
  refine ⟨each, wellFormed.fits.ordered.imp_of_mem fun inFirst inSecond ordered => ?_⟩
  intro before memberBefore behind memberBehind
  have here := Within.of_mem_readers (wellFormed.within_child inFirst).wellFormed memberBefore
  have there := Within.of_mem_readers (wellFormed.within_child inSecond).wellFormed memberBehind
  obtain ⟨⟨_, reads⟩, _⟩ := mem_readers_iff.mp memberBefore
  have := (reads.opens here.wellFormed).1
  have := here.stops
  have := there.starts
  omega

/-- The nodes that read a variable begin one behind the other. -/
theorem pairwise_readers (wellFormed : node.WellFormed source) :
    (node.readers source).Pairwise fun first second => first.start < second.start := by
  induction node using induct with
  | step info children ih =>
      have among := pairwise_readers_children wellFormed fun child member =>
        ih child member (wellFormed.within_child member).wellFormed
      have below : (if (mk info children).isRead then
          (mk info children).children.flatMap (readers source) else []).Sublist
            ((mk info children).children.flatMap (readers source)) := by
        split
        · exact List.Sublist.refl _
        · exact List.nil_sublist _
      rw [readers_eq]
      cases matched : (mk info children).variableName? source with
      | none => exact among.sublist below
      | some name =>
          have opens := (variableName?_eq_some_iff.mp matched).opens wellFormed
          exact List.pairwise_cons.mpr
            ⟨fun found member => opens.2.2 found (below.subset member), among.sublist below⟩

end Spine

theorem references_eq_readers (root : Node) (source : Source) :
    root.references source = (root.readers source).filterMap (·.reference? source) := by
  have silent (found : Node) : (found.variableName? source).isSome = false →
      found.reference? source = none := by
    intro nothing
    have unread : found.variableName? source = none := by simpa using nothing
    rw [reference?, unread]
    rfl
  rw [root.references_eq, readers, List.filterMap_filter, List.filterMap_map]
  congr 1
  funext place
  cases matched : (place.2.variableName? source).isSome with
  | true => simp [matched]
  | false => simp [matched, silent place.2 matched]

theorem reference?_eq_some_iff {node : Node} {source : Source} {reference : Reference} :
    node.reference? source = some reference ↔ node.Reads source reference.name ∧
      reference.line = node.info.point.row + 1 ∧
      reference.column = node.info.point.column + 1 := by
  obtain ⟨name, line, column⟩ := reference
  rw [reference?, Option.map_eq_some_iff]
  constructor
  · rintro ⟨_, matched, ⟨⟩⟩
    exact ⟨variableName?_eq_some_iff.mp matched, rfl, rfl⟩
  · rintro ⟨reads, rfl, rfl⟩
    exact ⟨name, variableName?_eq_some_iff.mpr reads, rfl⟩

section Places

variable {text : String} {tree : Node}

/-- The references of a tree that fits a text stand at ever later places. -/
theorem pairwise_place_references (wellFormed : tree.WellFormed (.ofText text)) :
    ((tree.references (.ofText text)).map Reference.place).Pairwise (· < ·) := by
  rw [references_eq_readers, List.pairwise_map, List.pairwise_filterMap]
  refine (pairwise_readers wellFormed).imp_of_mem fun inTree behindInTree before => ?_
  intro reference isReference later isLater
  obtain ⟨_, line, column⟩ := reference?_eq_some_iff.mp isReference
  obtain ⟨_, laterLine, laterColumn⟩ := reference?_eq_some_iff.mp isLater
  have point := (Within.of_mem_readers wellFormed inTree).wellFormed.fits.point
  have laterPoint := (Within.of_mem_readers wellFormed behindInTree).wellFormed.fits.point
  have less := Source.place_point_lt text before
  rw [← point, ← laterPoint, Point.place, Point.place, Prod.Lex.toLex_lt_toLex] at less
  rw [Reference.place, Reference.place, Prod.Lex.toLex_lt_toLex]
  simp only at less ⊢
  omega

theorem place_le_size (wellFormed : tree.WellFormed (.ofText text)) {reference : Reference}
    (member : reference ∈ tree.references (.ofText text)) :
    reference.line ≤ text.utf8ByteSize ∧ reference.column ≤ text.utf8ByteSize := by
  rw [references_eq_readers] at member
  obtain ⟨found, inTree, isReference⟩ := List.mem_filterMap.mp member
  obtain ⟨reads, line, column⟩ := reference?_eq_some_iff.mp isReference
  have within := Within.of_mem_readers wellFormed inTree
  have inText : found.start < text.utf8ByteSize := (reads.opens within.wellFormed).2.1
  have row := Source.row_le text found.start
  rw [within.wellFormed.fits.point, Source.point] at line column
  simp only at line column
  omega

end Places

end Node

/-- The first of ever later places that passes a test is the least one that does. -/
theorem isLeast_place_of_find? {references : List Reference} {test : Reference → Bool}
    {first : Reference} (ordered : (references.map Reference.place).Pairwise (· < ·))
    (found : references.find? test = some first) :
    IsLeast {place | ∃ other ∈ references, test other = true ∧ other.place = place}
      first.place := by
  obtain ⟨passes, before, behind, rfl, fails⟩ := List.find?_eq_some_iff_append.mp found
  refine ⟨⟨first, by simp, passes, rfl⟩, ?_⟩
  rintro _ ⟨other, member, otherPasses, rfl⟩
  rw [List.map_append, List.map_cons, List.pairwise_append] at ordered
  rcases List.mem_append.mp member with inBefore | inRest
  · have := fails other inBefore
    simp [otherPasses] at this
  · rcases List.mem_cons.mp inRest with rfl | inBehind
    · exact le_refl _
    · exact le_of_lt (List.rel_of_pairwise_cons ordered.2.1 (List.mem_map_of_mem inBehind))

/-- In a check of a text whose references stand at ever later places, each name is seen first
where the least place with a reference to it is. -/
theorem Check.source_firstSeen_isLeast {text : String} {dialect : Dialect}
    {found : List Reference} (accepted : references text dialect = .ok found)
    (ordered : (found.map Reference.place).Pairwise (· < ·)) (environment : Environment)
    (policy : EmptyValuePolicy) (durationMs : Nat) :
    ∃ result, Check.source text dialect environment policy durationMs = .ok result ∧
      ∀ reference ∈ found, ∃ location, result.firstSeen? reference.name = some location ∧
        IsLeast {place | ∃ other ∈ found, other.name = reference.name ∧ other.place = place}
          location.place := by
  obtain ⟨result, checked, seen, _⟩ := Check.source_of_ok accepted environment policy durationMs
  refine ⟨result, checked, fun reference member => ?_⟩
  have exists? : (found.find? fun other => reference.name == other.name).isSome := by
    rw [List.find?_isSome]
    exact ⟨reference, member, by simp⟩
  obtain ⟨first, isFirst⟩ := Option.isSome_iff_exists.mp exists?
  refine ⟨Findings.locate none first, ?_, ?_⟩
  · rw [CheckResult.firstSeen?, seen, Findings.lookup_single, isFirst]
    rfl
  · have least := isLeast_place_of_find? ordered isFirst
    simp only [beq_iff_eq, eq_comm (a := reference.name)] at least
    exact least

theorem references_eq_of_treeOf {text : String} {dialect : Dialect} {tree : Node}
    {found : List Reference} (isTree : treeOf (.ofText text) dialect = tree)
    (accepted : references text dialect = .ok found) : tree.references (.ofText text) = found := by
  rw [references, referencesWith, parseWith] at accepted
  rw [← isTree]
  split at accepted
  · cases accepted
  · cases accepted
    rfl

/-- In a tree that fits its text, references come in the order of their lines and columns, and no
two at the same place.  In a check of the text, a name is seen first at the least place where it is
referred to. -/
theorem references_in_source_order {text : String} {tree : Node}
    (wellFormed : tree.WellFormed (.ofText text)) (short : text.utf8ByteSize < 2 ^ 32 - 1) :
    ((tree.references (.ofText text)).map Reference.place).Pairwise (· < ·) ∧
    ((tree.references (.ofText text)).map Reference.place).Nodup ∧
    (∀ reference ∈ tree.references (.ofText text),
      reference.line < 2 ^ 32 ∧ reference.column < 2 ^ 32) ∧
    ∀ dialect found, treeOf (.ofText text) dialect = tree → references text dialect = .ok found →
      (found.map Reference.place).Pairwise (· < ·) ∧
      ∀ environment policy durationMs, ∃ result,
        Check.source text dialect environment policy durationMs = .ok result ∧
        ∀ reference ∈ found, ∃ location, result.firstSeen? reference.name = some location ∧
          IsLeast {place | ∃ other ∈ found, other.name = reference.name ∧ other.place = place}
            location.place := by
  have ordered := Node.pairwise_place_references wellFormed
  refine ⟨ordered, ordered.imp ne_of_lt, fun reference member => ?_, ?_⟩
  · have bounds := Node.place_le_size wellFormed member
    omega
  · intro dialect found isTree accepted
    obtain rfl := references_eq_of_treeOf isTree accepted
    exact ⟨ordered, Check.source_firstSeen_isLeast accepted ordered⟩

namespace LongChain

def later : Node :=
  member (member (node "identifier" 19 26 (some "object") []) 27 30) 31 32

def both : Node :=
  node "sequence_expression" 0 32 none [whole, node "," 17 18 none [], later]

section Fitting

variable {kind : String} {start stop : Nat} {field : Option String} {children : List Node}

/-- A node fits the text if its children do, one behind the other. -/
theorem wellFormed_node (forward : start ≤ stop)
    (below : ∀ child ∈ children, child.WellFormed source)
    (inside : ∀ child ∈ children, start ≤ child.start ∧ child.stop ≤ stop)
    (ordered : children.Pairwise fun first second => first.stop ≤ second.start)
    (object : kind = "member_expression" →
      children.head? = (node kind start stop field children).child? "object")
    (parenthesis : kind = "parenthesized_expression" → ∃ first,
      children.head? = some first ∧ first.children = [] ∧ first.Spells source "(" "(")
    (leaf : kind = "identifier" → children = []) :
    (node kind start stop field children).WellFormed source :=
  .intro { forward, inside, ordered, object, parenthesis, leaf, point := rfl } below

theorem wellFormed_leaf (forward : start ≤ stop)
    (other : kind ≠ "parenthesized_expression") :
    (node kind start stop field []).WellFormed source :=
  wellFormed_node forward (by simp) (by simp) .nil (fun _ => rfl)
    (fun parentheses => absurd parentheses other) fun _ => rfl

theorem wellFormed_member {object : Node} (wellFormed : object.WellFormed source)
    (isObject : object.info.field = some "object") (behind : object.stop ≤ start)
    (forward : start ≤ stop) : (member object start stop).WellFormed source := by
  have wide := wellFormed.fits.forward
  refine wellFormed_node (by omega) ?_ ?_ ?_ ?_ (by simp) (by simp)
  · simpa using ⟨wellFormed, wellFormed_leaf forward (by decide)⟩
  · rintro child member
    rcases List.mem_pair.mp member with rfl | rfl
    · exact ⟨Nat.le_refl _, Nat.le_trans behind forward⟩
    · exact ⟨Nat.le_trans wide behind, Nat.le_refl _⟩
  · simpa [node, Node.start] using behind
  · simp [node, Node.child?, isObject]

end Fitting

theorem wellFormed_whole : whole.WellFormed source := by
  have inner : env.WellFormed source := wellFormed_member
    (wellFormed_leaf (by decide) (by decide)) rfl (by decide) (by decide)
  have opening : (node "(" 0 1 none []).WellFormed source :=
    wellFormed_leaf (by decide) (by decide)
  have closing : (node ")" 12 13 none []).WellFormed source :=
    wellFormed_leaf (by decide) (by decide)
  have enclosed : parentheses.WellFormed source :=
    wellFormed_node (by decide) (by simp [inner, opening, closing]) (by decide) (by decide)
      (by simp) (fun _ => ⟨_, rfl, rfl, rfl, by decide +kernel⟩) (by simp)
  exact wellFormed_member (wellFormed_member enclosed rfl (by decide) (by decide)) rfl
    (by decide) (by decide)

theorem wellFormed_both : both.WellFormed source := by
  have comma : (node "," 17 18 none []).WellFormed source :=
    wellFormed_leaf (by decide) (by decide)
  have isLater : later.WellFormed source := wellFormed_member (wellFormed_member
    (wellFormed_leaf (by decide) (by decide)) rfl (by decide) (by decide)) rfl
    (by decide) (by decide)
  exact wellFormed_node (by decide) (by simp [wellFormed_whole, comma, isLater]) (by decide)
    (by decide) (by simp) (by simp) (by simp)

end LongChain

theorem references_in_source_order_both :
    LongChain.both.WellFormed LongChain.source ∧ LongChain.text.utf8ByteSize < 2 ^ 32 - 1 ∧
      (LongChain.both.references LongChain.source).map (·.name) = ["A", "C"] ∧
      ((LongChain.both.references LongChain.source).map Reference.place).Pairwise (· < ·) := by
  have short : LongChain.text.utf8ByteSize < 2 ^ 32 - 1 := by decide +kernel
  have names : (LongChain.both.references LongChain.source).map (·.name) = ["A", "C"] := by
    rw [Node.references_eq_readers]
    decide +kernel
  exact ⟨LongChain.wellFormed_both, short, names,
    (references_in_source_order LongChain.wellFormed_both short).1⟩

end EnvAudit
