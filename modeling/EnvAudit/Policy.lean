import EnvAudit.Text.Blank
import EnvAudit.Text.Quoted

/-!
# Policies

How empty values are classified, and what happens when a file does not parse.
-/

namespace EnvAudit

/-- How a variable with an empty value counts. -/
inductive EmptyValuePolicy where
  /-- It counts as not set. -/
  | missing
  /-- It counts as set. -/
  | present
  deriving BEq, DecidableEq, Repr, Inhabited

/-- What happens when a file does not parse. -/
inductive ParseErrorPolicy where
  /-- The check fails. -/
  | abort
  /-- The file is left out and recorded. -/
  | skip
  deriving BEq, DecidableEq, Repr, Inhabited

namespace ParseErrorPolicy

def name : ParseErrorPolicy → String
  | abort => "abort"
  | skip => "skip"

/-- Why a text names no policy. -/
structure Unknown where
  /-- The text in lowercase, without the blanks around it. -/
  given : String
  deriving BEq, DecidableEq, Repr

/-- The message that tells of an unknown policy. -/
def Unknown.message (unknown : Unknown) : String :=
  s!"expected {Text.quoted abort.name} or {Text.quoted skip.name}, got {Text.quoted unknown.given}"

/-- The policy that a text names, in letters of either case and among blanks. -/
def ofText (text : String) : Except Unknown ParseErrorPolicy :=
  let given := (Text.trim text).toLower
  if given = abort.name then .ok abort
  else if given = skip.name then .ok skip
  else .error ⟨given⟩

end ParseErrorPolicy

end EnvAudit
