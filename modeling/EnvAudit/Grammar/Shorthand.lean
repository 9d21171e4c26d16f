import EnvAudit.Grammar.Rule

/-!
# Shorthand for writing rules

Names of rules stand for themselves wherever a rule is expected; `text` makes
a fixed token.
-/

namespace EnvAudit.Grammar

instance : Coe String (Rule Leaf) where
  coe name := .leaf (.rule name)

namespace Rule

def text (content : String) : Rule Leaf :=
  .leaf (.text content)

def texts (contents : List String) : Rule Leaf :=
  .choice (contents.map text)

def lexeme (token : Lexeme) : Rule Leaf :=
  .leaf (.lexeme token)

/-- One or more copies with separators between them. -/
def separated (separator body : Rule Leaf) : Rule Leaf :=
  .seq [body, any (.seq [separator, body])]

/-- One or more copies with commas between them. -/
def commaSeparated (body : Rule Leaf) : Rule Leaf :=
  separated (text ",") body

/-- Any number of copies with commas between them. -/
def commaList (body : Rule Leaf) : Rule Leaf :=
  opt (commaSeparated body)

/-- A rank by name. -/
def rank (name : String) (body : Rule Leaf) : Rule Leaf :=
  .ranked (.named name) none body

def rankLeft (name : String) (body : Rule Leaf) : Rule Leaf :=
  .ranked (.named name) (some .left) body

def rankRight (name : String) (body : Rule Leaf) : Rule Leaf :=
  .ranked (.named name) (some .right) body

/-- The rule has no rank but is read from the left. -/
def fromLeft (body : Rule Leaf) : Rule Leaf :=
  .ranked (.level 0) (some .left) body

/-- The rule has no rank but is read from the right. -/
def fromRight (body : Rule Leaf) : Rule Leaf :=
  .ranked (.level 0) (some .right) body

/-- The rule shows under another name. -/
def shownAs (name : String) (body : Rule Leaf) : Rule Leaf :=
  .labelled ⟨name, true⟩ body

/-- The rule shows like a fixed token. -/
def shownAsText (name : String) (body : Rule Leaf) : Rule Leaf :=
  .labelled ⟨name, false⟩ body

end Rule

end EnvAudit.Grammar
