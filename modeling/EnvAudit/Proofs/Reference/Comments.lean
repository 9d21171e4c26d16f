import EnvAudit.Proofs.Reference.SourceOrder
import Mathlib.Data.List.Forall2
import Mathlib.Data.Option.Basic

/-!
# Comments next to references

Were comments passed over, the names that are read would not depend on them, wherever they stand.
They are passed over but for one place: a comment that comes first within parentheses is taken for
what stands in them.  So it hides a reference if these are parentheses around `process` or
`process.env`.
-/

namespace EnvAudit

namespace Node

/-- A comment is a leaf with a name that stands in no field. -/
def isComment (node : Node) : Bool :=
  (node.kind == "comment" || node.kind == "html_comment") && node.info.named &&
    node.info.field.isNone && node.children.isEmpty

/-- The children that are not comments. -/
def parts (node : Node) : List Node :=
  node.children.filter fun child => !child.isComment

/-- Two nodes of two texts that are the same but for where they stand and for comments below
them. -/
inductive SameButComments (source other : Source) : Node → Node → Prop
  | intro {node twin : Node} (kind : node.kind = twin.kind)
      (named : node.info.named = twin.info.named) (field : node.info.field = twin.info.field)
      (text : node.kind = "identifier" ∨ node.kind = "property_identifier" →
        node.text source = twin.text other)
      (order : ∀ first ∈ node.parts.zip twin.parts, ∀ second ∈ node.parts.zip twin.parts,
        (first.1.stop ≤ second.1.start ↔ first.2.stop ≤ second.2.start))
      (parts : List.Forall₂ (SameButComments source other) node.parts twin.parts) :
      SameButComments source other node twin

mutual

/-- What stands within parentheses, comments passed over. -/
def core : Node → Node
  | mk info children =>
      if info.kind = "parenthesized_expression" then
        (coreFirst children).getD (mk info children)
      else
        mk info children

/-- What stands within the first of the nodes that has a name and is no comment. -/
def coreFirst : List Node → Option Node
  | [] => none
  | node :: nodes =>
      if !node.isComment && node.info.named then some (core node) else coreFirst nodes

end

/-- The variable that an expression would read if comments were passed over. -/
def meantName? (node : Node) (source : Source) : Option String := do
  let (object, property) ← node.memberParts?
  let (base, env) ← object.core.memberParts?
  if base.core.isText source "identifier" "process" &&
      env.isText source "property_identifier" "env" &&
      property.kind == "property_identifier" then
    some (property.text source)
  else
    none

/-- A comment is taken for the object of a member expression, or for the object of that. -/
def isHidden (node : Node) : Bool :=
  (node.child? "object").any fun object =>
    object.peel.isComment || (object.peel.child? "object").any fun base => base.peel.isComment

/-- What a test gives for the nodes that a descent comes to. -/
def gather (test : Node → Option String) (root : Node) : List String :=
  (root.reached.map Prod.snd).filterMap test

/-- No comment hides a variable that is read. -/
def Unhidden (source : Source) (root : Node) : Prop :=
  ∀ found ∈ root.reached.map Prod.snd,
    (found.meantName? source).isSome = true → found.isHidden = false

section Parts

variable {source : Source} {node : Node}

theorem isComment_iff : node.isComment = true ↔
    (node.kind = "comment" ∨ node.kind = "html_comment") ∧ node.info.named = true ∧
      node.info.field = none ∧ node.children = [] := by
  simp [isComment, and_assoc]

theorem isComment_eq_false_of_kind {kind : String} (isKind : node.kind = kind)
    (other : kind ≠ "comment" ∧ kind ≠ "html_comment") : node.isComment = false := by
  rw [← Bool.not_eq_true, isComment_iff]
  rintro ⟨isComment | isComment, _⟩
  · exact other.1 (isKind.symm.trans isComment)
  · exact other.2 (isKind.symm.trans isComment)

theorem peel_of_isComment (comment : node.isComment = true) : node.peel = node := by
  rw [peel_eq, if_neg]
  intro parentheses
  rw [isComment_eq_false_of_kind parentheses (by decide)] at comment
  cases comment

theorem memberParts?_of_isComment (comment : node.isComment = true) : node.memberParts? = none := by
  rw [Option.eq_none_iff_forall_ne_some]
  rintro ⟨object, property⟩ known
  have kind := (memberParts?_eq_some_iff.mp known).kind
  rw [isComment_eq_false_of_kind kind (by decide)] at comment
  cases comment

theorem mem_parts_iff {child : Node} :
    child ∈ node.parts ↔ child ∈ node.children ∧ child.isComment = false := by
  simp [parts]

theorem child?_eq_find?_parts (node : Node) (field : String) :
    node.child? field = node.parts.find? fun child => child.info.field == some field := by
  rw [child?, parts, List.find?_filter]
  congr 1
  funext child
  by_cases comment : child.isComment = true
  · rw [isComment_iff] at comment
    simp [comment.2.2.1]
  · simp [comment, Bool.beq_eq_decide_eq]

theorem core_eq (node : Node) : node.core =
    if node.kind = "parenthesized_expression" then
      ((node.parts.find? (·.info.named)).map core).getD node
    else
      node := by
  obtain ⟨info, children⟩ := node
  have first : coreFirst children = ((mk info children).parts.find? (·.info.named)).map core := by
    rw [parts, children_mk]
    induction children with
    | nil => rfl
    | cons child children ih =>
        rw [coreFirst, ih, List.filter_cons]
        by_cases comment : child.isComment = true
        · simp [comment]
        · cases named : child.info.named <;> simp [comment, named]
  rw [core, first]
  rfl

theorem find?_parts_of_solid {first : Node}
    (known : node.children.find? (·.info.named) = some first) (solid : first.isComment = false) :
    node.parts.find? (·.info.named) = some first := by
  obtain ⟨isNamed, before, behind, whole, unnamed⟩ := List.find?_eq_some_iff_append.mp known
  refine List.find?_eq_some_iff_append.mpr ⟨isNamed, before.filter fun child => !child.isComment,
    behind.filter fun child => !child.isComment, ?_, ?_⟩
  · simp [parts, whole, solid]
  · exact fun child inBefore => unnamed child (List.mem_filter.mp inBefore).1

/-- Where no comment is taken for what stands within parentheses, none has to be passed over. -/
theorem peel_eq_core (solid : node.peel.isComment = false) : node.peel = node.core := by
  induction node using induct with
  | step info children ih =>
      rw [peel_eq] at solid ⊢
      rw [core_eq]
      by_cases parentheses : (mk info children).kind = "parenthesized_expression"
      · rw [if_pos parentheses] at solid ⊢
        rw [if_pos parentheses]
        cases known : (mk info children).children.find? (·.info.named) with
        | none =>
            have unnamed : (mk info children).parts.find? (·.info.named) = none := by
              rw [List.find?_eq_none] at known ⊢
              exact fun child isPart => known child (mem_parts_iff.mp isPart).1
            rw [unnamed]
            rfl
        | some first =>
            rw [known, Option.map_some, Option.getD_some] at solid
            have firstSolid : first.isComment = false := by
              by_contra comment
              rw [Bool.not_eq_false] at comment
              rw [peel_of_isComment comment, comment] at solid
              cases solid
            rw [find?_parts_of_solid known firstSolid]
            exact ih first (List.mem_of_find?_eq_some known) solid
      · rw [if_neg parentheses, if_neg parentheses]

/-- An expression reads its variable unless a comment hides it. -/
theorem variableName?_eq (node : Node) (source : Source) : node.variableName? source =
    if node.isHidden then none else node.meantName? source := by
  rw [variableName?, meantName?, isHidden]
  cases outer : node.memberParts? with
  | none => simp
  | some pair =>
      obtain ⟨object, property⟩ := pair
      have hasObject := (memberParts?_eq_some_iff.mp outer).hasObject
      simp only [Option.bind_eq_bind, Option.bind_some, hasObject, Option.any_some]
      by_cases comment : object.peel.isComment = true
      · simp [comment, memberParts?_of_isComment comment]
      · rw [Bool.not_eq_true] at comment
        have solid := comment
        rw [peel_eq_core comment] at solid ⊢
        simp only [solid, Bool.false_or]
        cases inner : object.core.memberParts? with
        | none => simp
        | some pair =>
            obtain ⟨base, env⟩ := pair
            have hasBase := (memberParts?_eq_some_iff.mp inner).hasObject
            simp only [Option.bind_some, hasBase, Option.any_some]
            by_cases baseComment : base.peel.isComment = true
            · have noProcess : base.peel.isText source "identifier" "process" = false := by
                rw [← Bool.not_eq_true, isText_iff]
                intro spells
                rw [isComment_eq_false_of_kind spells.1 (by decide)] at baseComment
                cases baseComment
              simp [baseComment, noProcess]
            · rw [Bool.not_eq_true] at baseComment
              have baseSolid := baseComment
              rw [peel_eq_core baseComment] at baseSolid ⊢
              simp [baseSolid]

theorem gather_eq (test : Node → Option String) (silent : ∀ node, node.isComment = true →
    test node = none) (node : Node) : node.gather test =
      (test node).toList ++ if node.isRead then node.parts.flatMap (gather test) else [] := by
  obtain ⟨info, children⟩ := node
  have among : ((reachedAmong 0 children).map Prod.snd).filterMap test =
      children.flatMap (gather test) := by
    rw [reachedAmong_snd, List.filterMap_flatMap]
    rfl
  have passed : children.flatMap (gather test) =
      (mk info children).parts.flatMap (gather test) := by
    rw [parts, children_mk]
    clear among
    induction children with
    | nil => rfl
    | cons child children ih =>
        rw [List.flatMap_cons, List.filter_cons, ih]
        by_cases comment : child.isComment = true
        · have leaf := (isComment_iff.mp comment).2.2.2
          have nothing := silent child comment
          obtain ⟨childInfo, below⟩ := child
          rw [children_mk] at leaf
          subst leaf
          simp [gather, reached, reachedAmong, nothing, comment]
        · simp [comment]
  rw [← passed, ← among, gather, reached, List.map_cons, List.filterMap_cons]
  by_cases read : (mk info children).isRead = true
  · rw [if_pos read, if_pos read]
    cases test (mk info children) <;> rfl
  · rw [if_neg read, if_neg read]
    cases test (mk info children) <;> rfl

theorem names_references (source : Source) (root : Node) :
    (root.references source).map (·.name) = root.gather fun found => found.variableName? source := by
  rw [references_eq, List.map_filterMap, gather, List.filterMap_map]
  congr 1
  funext place
  rw [reference?, Function.comp_apply]
  cases place.2.variableName? source <;> rfl

theorem gather_of_unhidden {root : Node} (unhidden : root.Unhidden source) :
    root.gather (fun found => found.variableName? source) =
      root.gather fun found => found.meantName? source := by
  refine List.filterMap_congr fun found reached => ?_
  rw [variableName?_eq]
  cases meant : found.meantName? source with
  | none => simp
  | some name => simp [unhidden found reached (by simp [meant])]

end Parts

/-- The first nodes of two lists to pass a test are related, if the lists are and the test does not
tell related nodes apart. -/
theorem rel_find? {related : Node → Node → Prop} {nodes twins : List Node}
    (all : List.Forall₂ related nodes twins) {test : Node → Bool}
    (same : ∀ node twin, related node twin → test node = test twin) :
    Option.Rel related (nodes.find? test) (twins.find? test) := by
  induction all with
  | nil => exact .none
  | @cons node twin _ _ first _ ih =>
      rw [List.find?_cons, List.find?_cons, ← same node twin first]
      cases test node with
      | true => exact .some first
      | false => exact ih

namespace SameButComments

variable {source other : Source} {node twin : Node}

theorem kind_eq (alike : SameButComments source other node twin) : node.kind = twin.kind := by
  cases alike
  assumption

theorem named_eq (alike : SameButComments source other node twin) :
    node.info.named = twin.info.named := by
  cases alike
  assumption

theorem field_eq (alike : SameButComments source other node twin) :
    node.info.field = twin.info.field := by
  cases alike
  assumption

theorem forall₂_parts (alike : SameButComments source other node twin) :
    List.Forall₂ (SameButComments source other) node.parts twin.parts := by
  cases alike
  assumption

theorem child? (alike : SameButComments source other node twin) (field : String) :
    Option.Rel (fun child twinChild => SameButComments source other child twinChild ∧
      (child, twinChild) ∈ node.parts.zip twin.parts) (node.child? field) (twin.child? field) := by
  have pairs : List.Forall₂ (fun child twinChild => SameButComments source other child twinChild ∧
      (child, twinChild) ∈ node.parts.zip twin.parts) node.parts twin.parts := by
    have parts := alike.forall₂_parts
    rw [List.forall₂_iff_zip] at parts ⊢
    exact ⟨parts.1, fun member => ⟨parts.2 member, member⟩⟩
  rw [child?_eq_find?_parts, child?_eq_find?_parts]
  refine rel_find? pairs fun child twinChild related => ?_
  rw [related.1.field_eq]

theorem core (alike : SameButComments source other node twin) :
    SameButComments source other node.core twin.core := by
  induction node using induct generalizing twin with
  | step info children ih =>
      rw [core_eq, core_eq twin, ← alike.kind_eq]
      split
      · have related : Option.Rel (SameButComments source other)
            ((mk info children).parts.find? (·.info.named)) (twin.parts.find? (·.info.named)) :=
          rel_find? alike.forall₂_parts fun child twinChild related => related.named_eq
        revert related
        cases first : (mk info children).parts.find? (·.info.named) with
        | none =>
            cases twin.parts.find? (·.info.named) with
            | none => exact fun _ => alike
            | some _ => nofun
        | some found =>
            cases twin.parts.find? (·.info.named) with
            | none => nofun
            | some _ =>
                rintro ⟨same⟩
                have isPart := List.mem_of_find?_eq_some first
                exact ih found (mem_parts_iff.mp isPart).1 same
      · exact alike

theorem memberParts? (alike : SameButComments source other node twin) :
    Option.Rel (fun pair twinPair => SameButComments source other pair.1 twinPair.1 ∧
      SameButComments source other pair.2 twinPair.2) node.memberParts? twin.memberParts? := by
  have objects := alike.child? "object"
  have properties := alike.child? "property"
  rw [Node.memberParts?, Node.memberParts?, ← alike.kind_eq]
  split
  · revert objects properties
    generalize node.child? "object" = object, twin.child? "object" = twinObject,
      node.child? "property" = property, twin.child? "property" = twinProperty
    intro objects properties
    cases objects with
    | none => exact .none
    | @some object twinObject sameObject =>
        cases properties with
        | none => exact .none
        | @some property twinProperty sameProperty =>
            have order : object.stop ≤ property.start ↔ twinObject.stop ≤ twinProperty.start := by
              cases alike with
              | intro _ _ _ _ order _ => exact order _ sameObject.2 _ sameProperty.2
            simp only [Option.bind_eq_bind, Option.bind_some]
            by_cases behind : object.stop ≤ property.start
            · rw [if_pos behind, if_pos (order.mp behind)]
              exact .some ⟨sameObject.1, sameProperty.1⟩
            · rw [if_neg behind, if_neg (mt order.mpr behind)]
              exact .none
  · exact .none

theorem text_eq (alike : SameButComments source other node twin)
    (isName : node.kind = "identifier" ∨ node.kind = "property_identifier") :
    node.text source = twin.text other := by
  cases alike with
  | intro _ _ _ text _ _ => exact text isName

theorem isText_eq (alike : SameButComments source other node twin) {kind text : String}
    (isName : kind = "identifier" ∨ kind = "property_identifier") :
    node.isText source kind text = twin.isText other kind text := by
  by_cases isKind : node.kind = kind
  · rw [isText, isText, ← alike.kind_eq, alike.text_eq (by rwa [isKind])]
  · have other : (node.kind == kind) = false := beq_eq_false_iff_ne.mpr isKind
    rw [isText, isText, ← alike.kind_eq, other, Bool.false_and, Bool.false_and]

/-- Were comments passed over, the same variable would be read. -/
theorem meantName?_eq (alike : SameButComments source other node twin) :
    node.meantName? source = twin.meantName? other := by
  have outer := alike.memberParts?
  rw [meantName?, meantName?]
  revert outer
  generalize node.memberParts? = pair, twin.memberParts? = twinPair
  intro outer
  cases outer with
  | none => rfl
  | @some pair twinPair same =>
      obtain ⟨object, property⟩ := pair
      obtain ⟨twinObject, twinProperty⟩ := twinPair
      obtain ⟨sameObject, sameProperty⟩ := same
      have inner := sameObject.core.memberParts?
      simp only [Option.bind_eq_bind, Option.bind_some]
      revert inner
      generalize object.core.memberParts? = pair, twinObject.core.memberParts? = twinPair
      intro inner
      cases inner with
      | none => rfl
      | @some pair twinPair same =>
          obtain ⟨sameBase, sameEnv⟩ := same
          simp only [Option.bind_some]
          rw [sameBase.core.isText_eq (.inl rfl), sameEnv.isText_eq (.inr rfl),
            sameProperty.kind_eq]
          split
          · rename_i isChain
            simp only [Bool.and_eq_true, beq_iff_eq] at isChain
            rw [sameProperty.text_eq (.inr (sameProperty.kind_eq.trans isChain.2))]
          · rfl

theorem gather_meantName?_eq (alike : SameButComments source other node twin) :
    (node.gather fun found => found.meantName? source) =
      twin.gather fun found => found.meantName? other := by
  have silent (source : Source) (found : Node) (comment : found.isComment = true) :
      found.meantName? source = none := by
    rw [meantName?, memberParts?_of_isComment comment]
    rfl
  induction node using induct generalizing twin with
  | step info children ih =>
      have isRead : (mk info children).isRead = twin.isRead := by rw [isRead, isRead, alike.kind_eq]
      rw [gather_eq _ (silent source), gather_eq _ (silent other), alike.meantName?_eq, isRead]
      have each : List.Forall₂ (fun child twinChild =>
          (child.gather fun found => found.meantName? source) =
            twinChild.gather fun found => found.meantName? other)
          (mk info children).parts twin.parts := by
        have parts := alike.forall₂_parts
        rw [List.forall₂_iff_zip] at parts ⊢
        refine ⟨parts.1, fun {child twinChild} member => ?_⟩
        have isPart := mem_parts_iff.mp (List.of_mem_zip member).1
        exact ih child isPart.1 (parts.2 member)
      have mapped := List.forall₂_map_left_iff.mpr (List.forall₂_map_right_iff.mpr each)
      rw [List.forall₂_eq_eq_eq] at mapped
      rw [List.flatMap_def, List.flatMap_def, mapped]

end SameButComments

end Node

/-- Two trees that differ in their comments, and so in the places of their nodes.  The names that
would be read if comments were passed over are the same, in the same order.  An expression that
would read one of them does read it, unless a comment comes first within the parentheses around
`process` or `process.env`.  So, where no comment hides a variable like this, the same names are
read. -/
theorem comments_hide_only_in_parentheses {source other : Source} {tree twin : Node}
    (alike : Node.SameButComments source other tree twin) :
    (tree.gather fun found => found.meantName? source) =
      (twin.gather fun found => found.meantName? other) ∧
    (tree.references source).map (·.name) =
      tree.gather (fun found => if found.isHidden then none else found.meantName? source) ∧
    (tree.Unhidden source → twin.Unhidden other →
      (tree.references source).map (·.name) = (twin.references other).map (·.name)) := by
  have same := alike.gather_meantName?_eq
  refine ⟨same, ?_, fun unhidden twinUnhidden => ?_⟩
  · rw [Node.names_references]
    exact congrArg (fun test => tree.gather test) (funext fun found => found.variableName?_eq source)
  · rw [Node.names_references, Node.names_references, Node.gather_of_unhidden unhidden,
      Node.gather_of_unhidden twinUnhidden, same]

namespace InParentheses

/-- A node that begins and ends at the given bytes of a text. -/
def node (source : Source) (kind : String) (start stop : Nat) (field : Option String)
    (children : List Node) : Node :=
  .mk { kind, named := kind ≠ "(" ∧ kind ≠ ")" ∧ kind ≠ ".", start, stop,
        point := source.point start, field, fault := false, missing := false,
        hasFault := false } children

/-- An expression `process.env` that begins at the given byte. -/
def env (source : Source) (start : Nat) : Node :=
  node source "member_expression" start (start + 11) none
    [node source "identifier" start (start + 7) (some "object") [],
      node source "." (start + 7) (start + 8) none [],
      node source "property_identifier" (start + 8) (start + 11) (some "property") []]

/-- An expression in parentheses that close at the given byte, with comments around it. -/
def enclosed (source : Source) (before : List Node) (inner : Node) (behind : List Node)
    (close : Nat) : Node :=
  node source "parenthesized_expression" 0 (close + 1) (some "object")
    (node source "(" 0 1 none [] :: before ++ inner :: behind ++
      [node source ")" close (close + 1) none []])

/-- An expression that reads `X` from what stands in front of the given byte. -/
def reading (source : Source) (object : Node) (start : Nat) : Node :=
  node source "member_expression" 0 (start + 2) none
    [object, node source "." start (start + 1) none [],
      node source "property_identifier" (start + 1) (start + 2) (some "property") []]

def leading : Source := .ofText "(/* c */ process.env).X"

def trailing : Source := .ofText "(process.env /* c */).X"

def plain : Source := .ofText "(process.env).X"

def leadingTree : Node :=
  reading leading (enclosed leading [node leading "comment" 1 8 none []] (env leading 9) [] 20) 21

def trailingTree : Node :=
  reading trailing
    (enclosed trailing [] (env trailing 1) [node trailing "comment" 13 20 none []] 20) 21

def plainTree : Node :=
  reading plain (enclosed plain [] (env plain 1) [] 12) 13

section Alike

variable {source other : Source}

theorem alike_leaf {kind : String} {start stop twinStart twinStop : Nat} {field : Option String}
    (text : kind = "identifier" ∨ kind = "property_identifier" →
      slice source.text start stop = slice other.text twinStart twinStop) :
    Node.SameButComments source other (node source kind start stop field [])
      (node other kind twinStart twinStop field []) :=
  .intro rfl rfl rfl text (by simp [Node.parts, node]) (by simp [Node.parts, node])

theorem alike_env {start twinStart : Nat}
    (process : slice source.text start (start + 7) = slice other.text twinStart (twinStart + 7))
    (name : slice source.text (start + 8) (start + 11) =
      slice other.text (twinStart + 8) (twinStart + 11)) :
    Node.SameButComments source other (env source start) (env other twinStart) := by
  refine .intro rfl rfl rfl (by simp [env, node, Node.kind]) ?_ ?_
  · simp [env, node, Node.parts, Node.isComment, Node.kind, Node.start, Node.stop]
  · exact .cons (alike_leaf fun _ => process) (.cons (alike_leaf (by simp))
      (.cons (alike_leaf fun _ => name) .nil))

theorem parts_enclosed {before behind : List Node} {inner : Node} {close : Nat}
    (solid : inner.isComment = false)
    (comments : ∀ child ∈ before ++ behind, child.isComment = true) :
    (enclosed source before inner behind close).parts =
      [node source "(" 0 1 none [], inner, node source ")" close (close + 1) none []] := by
  have without {nodes : List Node} (all : ∀ child ∈ nodes, child.isComment = true) :
      nodes.filter (fun child => !child.isComment) = [] := by
    rw [List.filter_eq_nil_iff]
    exact fun child member => by simp [all child member]
  have beforeGone := without fun child member => comments child (List.mem_append_left _ member)
  have behindGone := without fun child member => comments child (List.mem_append_right _ member)
  have opening : (node source "(" 0 1 none []).isComment = false := rfl
  have closing : (node source ")" close (close + 1) none []).isComment = false := rfl
  have children : (enclosed source before inner behind close).children =
      node source "(" 0 1 none [] :: before ++ inner :: behind ++
        [node source ")" close (close + 1) none []] := rfl
  simp [Node.parts, children, beforeGone, behindGone, opening, closing, solid]

/-- Any comments within the parentheses leave an expression the same. -/
theorem alike_reading {before behind twinBefore twinBehind : List Node} {inner twinInner : Node}
    {close twinClose : Nat}
    (alike : Node.SameButComments source other inner twinInner)
    (solid : inner.isComment = false) (twinSolid : twinInner.isComment = false)
    (inside : 1 ≤ inner.start ∧ inner.start < inner.stop ∧ inner.stop ≤ close)
    (twinInside : 1 ≤ twinInner.start ∧ twinInner.start < twinInner.stop ∧
      twinInner.stop ≤ twinClose)
    (comments : ∀ child ∈ before ++ behind, child.isComment = true)
    (twinComments : ∀ child ∈ twinBefore ++ twinBehind, child.isComment = true)
    (name : slice source.text (close + 2) (close + 3) =
      slice other.text (twinClose + 2) (twinClose + 3)) :
    Node.SameButComments source other
      (reading source (enclosed source before inner behind close) (close + 1))
      (reading other (enclosed other twinBefore twinInner twinBehind twinClose)
        (twinClose + 1)) := by
  have object : Node.SameButComments source other (enclosed source before inner behind close)
      (enclosed other twinBefore twinInner twinBehind twinClose) := by
    refine .intro rfl rfl rfl (by simp [enclosed, node, Node.kind]) ?_ ?_
    · rw [parts_enclosed solid comments, parts_enclosed twinSolid twinComments]
      simp [node, Node.start, Node.stop] at inside twinInside ⊢
      omega
    · rw [parts_enclosed solid comments, parts_enclosed twinSolid twinComments]
      exact .cons (alike_leaf (by simp)) (.cons alike (.cons (alike_leaf (by simp)) .nil))
  refine .intro rfl rfl rfl (by simp [reading, node, Node.kind]) ?_ ?_
  · simp [reading, enclosed, node, Node.parts, Node.isComment, Node.kind, Node.start, Node.stop]
  · exact .cons object (.cons (alike_leaf (by simp)) (.cons (alike_leaf fun _ => name) .nil))

end Alike

theorem leading_trailing :
    Node.SameButComments leading trailing leadingTree trailingTree :=
  alike_reading (alike_env (by decide +kernel) (by decide +kernel)) rfl rfl (by decide) (by decide)
    (by decide +kernel) (by decide +kernel) (by decide +kernel)

theorem trailing_plain : Node.SameButComments trailing plain trailingTree plainTree :=
  alike_reading (alike_env (by decide +kernel) (by decide +kernel)) rfl rfl (by decide) (by decide)
    (by decide +kernel) (by decide +kernel) (by decide +kernel)

theorem unhidden_trailingTree : trailingTree.Unhidden trailing := by
  unfold Node.Unhidden
  decide +kernel

theorem unhidden_plainTree : plainTree.Unhidden plain := by
  unfold Node.Unhidden
  decide +kernel

theorem names_trailingTree :
    (trailingTree.references trailing).map (·.name) = ["X"] := by
  rw [Node.names_references]
  decide +kernel

end InParentheses

theorem comments_hide_only_in_parentheses_trailing :
    Node.SameButComments InParentheses.trailing InParentheses.plain InParentheses.trailingTree
        InParentheses.plainTree ∧
      (InParentheses.plainTree.references InParentheses.plain).map (·.name) = ["X"] := by
  have same := (comments_hide_only_in_parentheses InParentheses.trailing_plain).2.2
    InParentheses.unhidden_trailingTree InParentheses.unhidden_plainTree
  exact ⟨InParentheses.trailing_plain, same.symm.trans InParentheses.names_trailingTree⟩

/-- A comment in front of `process.env` within parentheses hides the reference that it leaves as it
is when it stands behind. -/
theorem leading_comment_hides_reference :
    Node.SameButComments InParentheses.leading InParentheses.trailing InParentheses.leadingTree
        InParentheses.trailingTree ∧
      (InParentheses.leadingTree.references InParentheses.leading).map (·.name) = [] ∧
      (InParentheses.trailingTree.references InParentheses.trailing).map (·.name) = ["X"] := by
  refine ⟨InParentheses.leading_trailing, ?_, InParentheses.names_trailingTree⟩
  rw [Node.names_references]
  decide +kernel

end EnvAudit
