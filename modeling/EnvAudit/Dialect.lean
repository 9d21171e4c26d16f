/-!
# Dialects of source files

The extension of a file tells the dialect that it is written in.
-/

namespace EnvAudit

/-- The dialects that references are looked for in. -/
inductive Dialect where
  | plainScript
  | scriptWithMarkup
  | typedScript
  | typedScriptWithMarkup
  deriving BEq, DecidableEq, Hashable, Repr, Inhabited

instance : LawfulBEq Dialect where
  eq_of_beq {first second} := by cases first <;> cases second <;> decide
  rfl {dialect} := by cases dialect <;> rfl

namespace Dialect

def all : List Dialect :=
  [plainScript, scriptWithMarkup, typedScript, typedScriptWithMarkup]

/-- The extensions of a dialect's files. -/
def extensions : Dialect → List String
  | plainScript => ["js", "mjs", "cjs"]
  | scriptWithMarkup => ["jsx"]
  | typedScript => ["ts", "mts", "cts"]
  | typedScriptWithMarkup => ["tsx"]

/-- The name that a dialect is known by. -/
def name : Dialect → String
  | plainScript => "JavaScript"
  | scriptWithMarkup => "JSX"
  | typedScript => "TypeScript"
  | typedScriptWithMarkup => "TSX"

def allowsTypeAnnotations : Dialect → Bool
  | plainScript | scriptWithMarkup => false
  | typedScript | typedScriptWithMarkup => true

def allowsMarkup : Dialect → Bool
  | plainScript | typedScript => false
  | scriptWithMarkup | typedScriptWithMarkup => true

/-- The dialect of an extension, in letters of either case. -/
def ofExtension? (extension : String) : Option Dialect :=
  all.find? fun dialect => dialect.extensions.contains extension.toLower

end Dialect

end EnvAudit
