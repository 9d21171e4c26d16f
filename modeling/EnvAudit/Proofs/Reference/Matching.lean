import EnvAudit.Proofs.Tree.Visits
import Mathlib.Data.List.Chain

/-!
# What an expression reads

An expression reads a variable if it is `process.env.NAME`, with any parentheses around
`process` and `process.env`.  Along a chain of member expressions, each the object of the one
before it, at most one does: the last but one, if the chain begins with `process.env`.
-/

namespace EnvAudit

namespace Node

/-- Goes from parentheses to the first named node in them, until there is none to go to. -/
inductive Peels : Node → Node → Prop
  | stops {node : Node} (stop : node.kind = "parenthesized_expression" →
      node.children.find? (·.info.named) = none) : Peels node node
  | enters {node first found : Node} (parentheses : node.kind = "parenthesized_expression")
      (known : node.children.find? (·.info.named) = some first) (rest : Peels first found) :
      Peels node found

/-- The node is a member expression, and its property stands behind its object. -/
structure IsMember (node object property : Node) : Prop where
  kind : node.kind = "member_expression"
  hasObject : node.child? "object" = some object
  hasProperty : node.child? "property" = some property
  behind : object.stop ≤ property.start

/-- The node is of a kind and reads as a text. -/
def Spells (node : Node) (source : Source) (kind text : String) : Prop :=
  node.kind = kind ∧ node.text source = text

/-- The node is `process.env.NAME` for a name, up to parentheses. -/
def Reads (node : Node) (source : Source) (name : String) : Prop :=
  ∃ object property inner base env innermost,
    node.IsMember object property ∧ object.Peels inner ∧
    inner.IsMember base env ∧ base.Peels innermost ∧
    innermost.Spells source "identifier" "process" ∧
    env.Spells source "property_identifier" "env" ∧
    property.Spells source "property_identifier" name

/-- The node is a member expression and the other one is its object, up to parentheses. -/
def Links (node inner : Node) : Prop :=
  node.kind = "member_expression" ∧
    ∃ object, node.child? "object" = some object ∧ object.Peels inner

theorem peelFirst_eq (nodes : List Node) :
    peelFirst nodes = (nodes.find? (·.info.named)).map peel := by
  induction nodes with
  | nil => rfl
  | cons node nodes ih =>
      rw [peelFirst, List.find?_cons, ih]
      cases node.info.named <;> rfl

theorem peel_eq (node : Node) : node.peel =
    if node.kind = "parenthesized_expression" then
      ((node.children.find? (·.info.named)).map peel).getD node
    else
      node := by
  obtain ⟨info, children⟩ := node
  rw [peel, peelFirst_eq]
  by_cases parentheses : info.kind = "parenthesized_expression" <;> simp [kind, parentheses]

theorem peels_peel (node : Node) : node.Peels node.peel := by
  induction node using induct with
  | step info children ih =>
      rw [peel_eq]
      split
      · rename_i parentheses
        cases known : (mk info children).children.find? (·.info.named) with
        | none => exact .stops fun _ => known
        | some first => exact .enters parentheses known (ih first (List.mem_of_find?_eq_some known))
      · rename_i other
        exact .stops fun parentheses => absurd parentheses other

theorem Peels.peel_eq {node found : Node} (peels : node.Peels found) : node.peel = found := by
  induction peels with
  | stops stop =>
      rw [Node.peel_eq]
      split
      · rename_i parentheses
        rw [stop parentheses]
        rfl
      · rfl
  | enters parentheses known _ ih =>
      rw [Node.peel_eq, if_pos parentheses, known]
      exact ih

theorem peels_iff {node found : Node} : node.Peels found ↔ node.peel = found := by
  constructor
  · exact Peels.peel_eq
  · rintro rfl
    exact peels_peel node

theorem memberParts?_eq_some_iff {node object property : Node} :
    node.memberParts? = some (object, property) ↔ node.IsMember object property := by
  rw [memberParts?]
  constructor
  · intro parts
    split at parts
    · rename_i kind
      obtain ⟨_, hasObject, parts⟩ := Option.bind_eq_some_iff.mp parts
      obtain ⟨_, hasProperty, parts⟩ := Option.bind_eq_some_iff.mp parts
      split at parts
      · rename_i behind
        cases parts
        exact ⟨beq_iff_eq.mp kind, hasObject, hasProperty, behind⟩
      · cases parts
    · cases parts
  · rintro ⟨kind, hasObject, hasProperty, behind⟩
    rw [if_pos (beq_iff_eq.mpr kind), hasObject, hasProperty]
    exact if_pos behind

theorem isText_iff {node : Node} {source : Source} {kind text : String} :
    node.isText source kind text = true ↔ node.Spells source kind text := by
  simp [isText, Spells]

theorem variableName?_eq_some_iff {node : Node} {source : Source} {name : String} :
    node.variableName? source = some name ↔ node.Reads source name := by
  rw [variableName?]
  constructor
  · intro matched
    obtain ⟨⟨object, property⟩, outer, matched⟩ := Option.bind_eq_some_iff.mp matched
    obtain ⟨⟨base, env⟩, middle, matched⟩ := Option.bind_eq_some_iff.mp matched
    simp only [Bool.and_eq_true, isText_iff, beq_iff_eq, Option.ite_none_right_eq_some,
      Option.some.injEq] at matched
    obtain ⟨⟨⟨process, isEnv⟩, isProperty⟩, name⟩ := matched
    exact ⟨object, property, object.peel, base, env, base.peel,
      memberParts?_eq_some_iff.mp outer, peels_peel object,
      memberParts?_eq_some_iff.mp middle, peels_peel base, process, isEnv, isProperty, name⟩
  · rintro ⟨object, property, _, base, env, _, outer, peels, middle, peelsBase, process, isEnv,
      isProperty, isName⟩
    rw [← peels.peel_eq] at middle
    rw [← peelsBase.peel_eq] at process
    rw [memberParts?_eq_some_iff.mpr outer]
    simp [memberParts?_eq_some_iff.mpr middle, isText_iff.mpr process, isText_iff.mpr isEnv,
      isProperty, isName]

theorem Links.unique {node first second : Node} (toFirst : node.Links first)
    (toSecond : node.Links second) : first = second := by
  obtain ⟨_, object, known, peels⟩ := toFirst
  obtain ⟨_, other, knownOther, peelsOther⟩ := toSecond
  cases known.symm.trans knownOther
  exact peels.peel_eq.symm.trans peelsOther.peel_eq

theorem IsMember.links {node object property inner : Node} (member : node.IsMember object property)
    (peels : object.Peels inner) : node.Links inner :=
  ⟨member.kind, object, member.hasObject, peels⟩

/-- A member expression is no identifier. -/
theorem not_links_of_identifier {node inner : Node} {source : Source} {text : String}
    (identifier : node.Spells source "identifier" text) : ¬ node.Links inner := by
  rintro ⟨kind, _⟩
  rw [identifier.1] at kind
  exact absurd kind (by decide)

section Chains

variable {source : Source} {nodes outer inner : List Node} {node : Node} {name : String}

theorem variableName?_of_not_member (other : node.kind ≠ "member_expression") :
    node.variableName? source = none := by
  rw [Option.eq_none_iff_forall_ne_some]
  intro name matched
  obtain ⟨_, _, _, _, _, _, member, _⟩ := variableName?_eq_some_iff.mp matched
  exact other member.kind

/-- What comes behind `process.env.NAME` in a chain: no more than `process.env` and `process`. -/
theorem Reads.behind (reads : node.Reads source name) (chain : (node :: inner).IsChain Links) :
    inner = [] ∨ ∃ env, env.kind = "member_expression" ∧
      (inner = [env] ∨ ∃ process, process.Spells source "identifier" "process" ∧
        env.Links process ∧ inner = [env, process]) := by
  obtain ⟨object, property, env, base, _, process, outerMember, peels, member, peelsBase,
    isProcess, _⟩ := reads
  cases inner with
  | nil => exact .inl rfl
  | cons first others =>
      rw [List.isChain_cons_cons] at chain
      obtain ⟨link, chain⟩ := chain
      obtain rfl := (outerMember.links peels).unique link
      refine .inr ⟨env, member.kind, ?_⟩
      cases others with
      | nil => exact .inl rfl
      | cons second others =>
          rw [List.isChain_cons_cons] at chain
          obtain ⟨link, chain⟩ := chain
          obtain rfl := (member.links peelsBase).unique link
          cases others with
          | nil => exact .inr ⟨process, isProcess, link, rfl⟩
          | cons third others =>
              rw [List.isChain_cons_cons] at chain
              exact absurd chain.1 (not_links_of_identifier isProcess)

/-- Nothing behind `process.env.NAME` in a chain reads a variable. -/
theorem Reads.filterMap_behind (reads : node.Reads source name)
    (chain : (node :: inner).IsChain Links) :
    inner.filterMap (·.variableName? source) = [] := by
  have notEnv {env : Node} (link : node.Links env) : env.variableName? source = none := by
    obtain ⟨_, _, _, _, _, process, outerMember, peels, member, peelsBase, isProcess, _⟩ := reads
    obtain rfl := (outerMember.links peels).unique link
    rw [Option.eq_none_iff_forall_ne_some]
    intro other matched
    obtain ⟨_, _, _, _, _, _, again, peelsAgain, middle, _⟩ := variableName?_eq_some_iff.mp matched
    obtain rfl := (member.links peelsBase).unique (again.links peelsAgain)
    exact absurd (isProcess.1.symm.trans middle.kind) (by decide)
  obtain rfl | ⟨env, _, rfl | ⟨process, isProcess, _, rfl⟩⟩ := reads.behind chain
  · rfl
  · simp [notEnv (List.isChain_cons_cons.mp chain).1]
  · have notProcess : process.variableName? source = none :=
      variableName?_of_not_member (by rw [isProcess.1]; decide)
    simp [notEnv (List.isChain_cons_cons.mp chain).1, notProcess]

/-- A chain with `process.env.NAME` in it reads the name, and nothing else. -/
theorem filterMap_chain_of_reads (reads : node.Reads source name)
    (chain : (outer ++ node :: inner).IsChain Links) :
    (outer ++ node :: inner).filterMap (·.variableName? source) = [name] := by
  induction outer with
  | nil =>
      rw [List.nil_append, List.filterMap_cons, variableName?_eq_some_iff.mpr reads,
        reads.filterMap_behind chain]
  | cons first outer ih =>
      rw [List.cons_append] at chain ⊢
      rw [List.filterMap_cons, ih chain.tail]
      cases matched : first.variableName? source with
      | none => rfl
      | some other =>
          have none := (variableName?_eq_some_iff.mp matched).filterMap_behind chain
          rw [ih chain.tail] at none
          cases none

theorem length_filterMap_chain_le (chain : nodes.IsChain Links) :
    (nodes.filterMap (·.variableName? source)).length ≤ 1 := by
  cases found : nodes.filterMap (·.variableName? source) with
  | nil => exact Nat.zero_le 1
  | cons name names =>
      have member : name ∈ nodes.filterMap (·.variableName? source) := by simp [found]
      obtain ⟨node, inChain, matched⟩ := List.mem_filterMap.mp member
      obtain ⟨outer, inner, rfl⟩ := List.append_of_mem inChain
      have single := filterMap_chain_of_reads (variableName?_eq_some_iff.mp matched) chain
      rw [found] at single
      rw [single]
      rfl

/-- A chain that does not begin with `process` reads no variable. -/
theorem filterMap_chain_eq_nil {members : List Node} {base : Node}
    (chain : (members ++ [base]).IsChain Links) (ends : base.kind ≠ "member_expression")
    (other : ¬ base.Spells source "identifier" "process") :
    (members ++ [base]).filterMap (·.variableName? source) = [] := by
  rw [List.filterMap_eq_nil_iff]
  intro node inChain
  rw [Option.eq_none_iff_forall_ne_some]
  intro name matched
  have reads := variableName?_eq_some_iff.mp matched
  obtain ⟨outer, inner, whole⟩ := List.append_of_mem inChain
  have last : (outer ++ node :: inner).getLast? = some base := by simp [← whole]
  rw [whole] at chain
  -- What comes behind the node ends with the base, but neither `process.env` nor `process` is it.
  obtain rfl | ⟨env, isMember, rfl | ⟨process, isProcess, _, rfl⟩⟩ :=
    reads.behind chain.right_of_append
  · obtain ⟨_, _, _, _, _, _, member, _⟩ := reads
    obtain rfl : node = base := by simpa using last
    exact ends member.kind
  · obtain rfl : env = base := by simpa using last
    exact ends isMember
  · obtain rfl : process = base := by simpa using last
    exact other isProcess

/-- A member expression reads no variable if something comes before its `process`. -/
theorem variableName?_eq_none_of_links {env before : Node} (link : node.Links env)
    (further : env.Links before) (member : before.kind = "member_expression") :
    node.variableName? source = none := by
  rw [Option.eq_none_iff_forall_ne_some]
  intro name matched
  have chain : [node, env, before].IsChain Links := by simp [link, further]
  obtain none | ⟨_, _, single | ⟨_, isProcess, _, both⟩⟩ :=
    (variableName?_eq_some_iff.mp matched).behind chain
  · cases none
  · cases single
  · cases both
    exact absurd (member.symm.trans isProcess.1) (by decide)

end Chains

end Node

/-- An expression reads a variable just if it is `process.env.NAME` up to parentheses.  In a chain
of member expressions, however long, at most one does.  What comes behind the name changes
nothing, and what comes before `process` leaves nothing to be read. -/
theorem variable_is_two_level_chain (source : Source) :
    (∀ (node : Node) name, node.variableName? source = some name ↔ node.Reads source name) ∧
    ∀ nodes : List Node, nodes.IsChain Node.Links →
      (nodes.filterMap (·.variableName? source)).length ≤ 1 ∧
      (∀ outer node inner name, nodes = outer ++ node :: inner → node.Reads source name →
        nodes.filterMap (·.variableName? source) = [name]) ∧
      (∀ members base, nodes = members ++ [base] → base.kind ≠ "member_expression" →
        ¬ base.Spells source "identifier" "process" →
        nodes.filterMap (·.variableName? source) = []) ∧
      ∀ outer node env before inner, nodes = outer ++ node :: env :: before :: inner →
        before.kind = "member_expression" → node.variableName? source = none := by
  refine ⟨fun node name => Node.variableName?_eq_some_iff, fun nodes chain =>
    ⟨Node.length_filterMap_chain_le chain, ?_, ?_, ?_⟩⟩
  · rintro outer node inner name rfl reads
    exact Node.filterMap_chain_of_reads reads chain
  · rintro members base rfl ends other
    exact Node.filterMap_chain_eq_nil chain ends other
  · rintro outer node env before inner rfl member
    have links := chain.right_of_append
    rw [List.isChain_cons_cons, List.isChain_cons_cons] at links
    exact Node.variableName?_eq_none_of_links links.1 links.2.1 member

namespace LongChain

def text : String := "(process.env).A.b, process.env.C"

def source : Source := .ofText text

/-- A node that begins and ends at the given bytes of the text. -/
def node (kind : String) (start stop : Nat) (field : Option String) (children : List Node) :
    Node :=
  .mk { kind, named := kind ≠ "(" ∧ kind ≠ ")", start, stop, point := source.point start, field,
        fault := false, missing := false, hasFault := false } children

/-- A member expression with the name of its property between two bytes. -/
def member (object : Node) (start stop : Nat) : Node :=
  node "member_expression" object.start stop (some "object")
    [object, node "property_identifier" start stop (some "property") []]

def process : Node := node "identifier" 1 8 (some "object") []

def env : Node := member process 9 12

def parentheses : Node :=
  node "parenthesized_expression" 0 13 (some "object")
    [node "(" 0 1 none [], env, node ")" 12 13 none []]

def reading : Node := member parentheses 14 15

def whole : Node := member reading 16 17

theorem chain : [whole, reading, env, process].IsChain Node.Links := by
  simp only [List.isChain_cons_cons, List.IsChain.singleton, and_true]
  exact ⟨⟨rfl, reading, rfl, Node.peels_iff.mpr rfl⟩, ⟨rfl, parentheses, rfl,
    Node.peels_iff.mpr rfl⟩, rfl, process, rfl, Node.peels_iff.mpr rfl⟩

end LongChain

theorem variable_is_two_level_chain_parenthesized :
    LongChain.reading.Reads LongChain.source "A" ∧
      [LongChain.whole, LongChain.reading, LongChain.env, LongChain.process].IsChain Node.Links ∧
      [LongChain.whole, LongChain.reading, LongChain.env, LongChain.process].filterMap
        (·.variableName? LongChain.source) = ["A"] := by
  obtain ⟨isRead, along⟩ := variable_is_two_level_chain LongChain.source
  have reads := (isRead LongChain.reading "A").mp (by decide +kernel)
  exact ⟨reads, LongChain.chain,
    (along _ LongChain.chain).2.1 [LongChain.whole] LongChain.reading _ "A" rfl reads⟩

end EnvAudit
