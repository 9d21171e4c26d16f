import EnvAudit.Dialect
import EnvAudit.Error
import EnvAudit.Parsing.Show
import EnvAudit.Reference
import EnvAudit.Script.TypedRules
import EnvAudit.Tree.Defect

/-!
# Extraction of references

A source text is read by the grammar of its dialect.  A text whose tree has a
defect is refused; from any other the references are taken.
-/

namespace EnvAudit

namespace Script

/-- The automaton of plain scripts. -/
def automaton : Thunk Grammar.Automaton := .mk fun _ => .ofGrammar grammar

/-- The automaton of typed scripts without markup. -/
def typedAutomaton : Thunk Grammar.Automaton := .mk fun _ => .ofGrammar (typedGrammar false)

/-- The automaton of typed scripts with markup. -/
def typedMarkupAutomaton : Thunk Grammar.Automaton :=
  .mk fun _ => .ofGrammar (typedGrammar true)

end Script

namespace Dialect

/-- The grammar of plain scripts has markup already; typed scripts need two,
since a cast looks like a tag. -/
def automaton (dialect : Dialect) : Grammar.Automaton :=
  match dialect.allowsTypeAnnotations, dialect.allowsMarkup with
  | false, _ => Script.automaton.get
  | true, false => Script.typedAutomaton.get
  | true, true => Script.typedMarkupAutomaton.get

end Dialect

/-- The tree of a text, whatever its defects. -/
def treeOf (source : Source) (dialect : Dialect) : Node :=
  dialect.automaton.tree source

/-- The tree of a source text, read by the given automaton.  A text with a defect
is refused at the first one. -/
def parseWith (automaton : Grammar.Automaton) (source : Source) : Except ParseError Node :=
  let tree := automaton.tree source
  match tree.firstDefect with
  | some point =>
      .error (.invalidSource ParseError.inlineSource (point.row + 1) (point.column + 1))
  | none => .ok tree

/-- The references of a source text, read by the given automaton. -/
def referencesWith (automaton : Grammar.Automaton) (text : String) :
    Except ParseError (List Reference) :=
  let source := Source.ofText text
  (parseWith automaton source).map fun tree => tree.references source

/-- The references of a source text in order. -/
def references (text : String) (dialect : Dialect) : Except ParseError (List Reference) :=
  referencesWith dialect.automaton text

/-- The names that a source text refers to, in order of first appearance. -/
def referencedNames (text : String) (dialect : Dialect) : Except ParseError (List String) :=
  (references text dialect).map distinctNames

/-- Extraction from several texts, with the automata of the dialects seen so
far. -/
structure Session where
  known : List (Dialect × Grammar.Automaton)

namespace Session

def start : Session := ⟨[]⟩

/-- The automaton of a dialect, kept for the next text in it. -/
def automatonFor (session : Session) (dialect : Dialect) : Grammar.Automaton × Session :=
  match session.known.lookup dialect with
  | some automaton => (automaton, session)
  | none => (dialect.automaton, ⟨(dialect, dialect.automaton) :: session.known⟩)

/-- The references of a text, and the session after it. -/
def references (session : Session) (text : String) (dialect : Dialect) :
    Except ParseError (List Reference) × Session :=
  let (automaton, session) := session.automatonFor dialect
  (referencesWith automaton text, session)

/-- The names that a text refers to, and the session after it. -/
def referencedNames (session : Session) (text : String) (dialect : Dialect) :
    Except ParseError (List String) × Session :=
  let (found, session) := session.references text dialect
  (found.map distinctNames, session)

end Session

end EnvAudit
