import EnvAudit.Grammar.Pattern

/-!
# Grammar rules

A `Grammar` is a list of named rules over tokens and other rules, together
with what decides between two readings of the same text: precedences, which
the grammar's rankings put in order, associativities, and dynamic precedences,
which are added up over a finished tree.
-/

namespace EnvAudit.Grammar

/-- How a chain of operators of one rank is read. -/
inductive Associativity where
  | left
  | right
  deriving BEq, Hashable, Repr, Inhabited

/-- The rank of a place in a rule: none, a number, or a name that the
grammar's rankings put in order. -/
inductive Precedence where
  | none
  | level (value : Int)
  | named (name : String)
  deriving BEq, Hashable, Repr, Inhabited

/-- The name under which a symbol shows in the tree.  Keywords and punctuation
are not `named`. -/
structure Alias where
  name : String
  named : Bool
  deriving BEq, Hashable, Repr, Inhabited

/-- A token that is described by a pattern. -/
structure Lexeme where
  /-- No two lexemes of a grammar have the same name. -/
  name : String
  pattern : Pattern
  /-- The token may not follow blanks. -/
  immediate : Bool := false
  /-- Of two tokens that fit, the one of higher precedence is taken. -/
  precedence : Int := 0
  /-- The token shows in the tree by its name, like a fixed text. -/
  shown : Bool := false

/-- A leaf of a rule: another rule, a fixed text, or a pattern. -/
inductive Leaf where
  | rule (name : String)
  | text (content : String)
  | lexeme (token : Lexeme)

/-- The body of a rule. -/
inductive Rule (σ : Type) where
  | blank
  | leaf (symbol : σ)
  | seq (members : List (Rule σ))
  | choice (members : List (Rule σ))
  /-- One or more repetitions. -/
  | many (body : Rule σ)
  | ranked (precedence : Precedence) (associativity : Option Associativity) (body : Rule σ)
  | dynamic (precedence : Int) (body : Rule σ)
  | field (name : String) (body : Rule σ)
  | labelled (label : Alias) (body : Rule σ)
  deriving BEq, Inhabited

/-- An entry of a ranking: a precedence name or the name of a rule. -/
inductive Rank where
  | named (name : String)
  | rule (name : String)
  deriving BEq

/-- The tokens that need more than a pattern to be recognised. -/
inductive ContextToken where
  /-- The end of a statement that no semicolon marks. -/
  | automaticSemicolon
  /-- A stretch of plain characters in a template string. -/
  | templateText
  /-- The question mark of a conditional expression. -/
  | conditionalMark
  /-- A comment in the style of a markup document. -/
  | markupComment
  | logicalOr
  | escapeSequence
  | regexPattern
  /-- A stretch of plain characters between markup tags. -/
  | markupText
  /-- The end of a function signature that no semicolon marks. -/
  | signatureSemicolon
  deriving BEq, Hashable, Repr, Inhabited

/-- How context-dependent tokens are recognised. -/
inductive ContextRules where
  | script
  | typedScript
  deriving BEq, Repr, Inhabited

/-- A context-free grammar with its tokens and its disambiguation. -/
structure Ruleset where
  /-- The rules in order, the start rule first. -/
  rules : List (String × Rule Leaf)
  /-- The rule of the token that keywords are special cases of. -/
  word : String
  /-- The context-dependent tokens by their rules or texts. -/
  contextTokens : List (ContextToken × Leaf)
  contextRules : ContextRules
  /-- Tokens that may stand between any two others. -/
  extras : List String
  /-- The characters that may stand between any two tokens. -/
  isBlank : Char → Bool
  /-- Rules that are replaced by their bodies. -/
  inlined : List String
  /-- Rules that group others and do not show in the tree. -/
  groups : List String
  /-- Each ranking lists precedences from high to low. -/
  rankings : List (List Rank)

namespace Rule

/-- Zero or one time. -/
def opt (body : Rule σ) : Rule σ :=
  .choice [body, .blank]

/-- Zero or more times. -/
def any (body : Rule σ) : Rule σ :=
  .choice [.many body, .blank]

end Rule

end EnvAudit.Grammar
