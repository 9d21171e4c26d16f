import EnvAudit.Config.Basic
import EnvAudit.Decimal
import EnvAudit.Toml.Diagnostic
import EnvAudit.Toml.Document

/-!
# Settings in TOML

The settings are taken out of the tables of a document.  Names that are not
known are passed over.  A list may stand for a group of settings in their usual
order.
-/

namespace EnvAudit

open Toml (Item Span Entries)

namespace Config

/-- Why an item does not hold the setting that is wanted. -/
structure Mismatch where
  message : String
  /-- Where the item stands; the place around it counts where there is none. -/
  span : Option Span
  deriving BEq, DecidableEq, Repr

namespace Mismatch

/-- The same mismatch at the given place, unless its place is known. -/
def around (mismatch : Mismatch) (span : Option Span) : Mismatch :=
  { mismatch with span := mismatch.span <|> span }

end Mismatch

/-- What an item is taken for where something else is wanted. -/
def describe : Item → String
  | .string value _ => s!"string {Text.quoted value}"
  | .integer value _ => s!"integer `{value}`"
  | .float value _ => s!"floating point `{Decimal.ofFloat value}`"
  | .boolean value _ => s!"boolean `{value}`"
  | .moment _ | .table .. => "map"
  | .array .. | .tables _ => "sequence"

/-- The mismatch of an item of the wrong kind. -/
def wrongKind (item : Item) (wanted : String) : Mismatch :=
  ⟨s!"invalid type: {describe item}, expected {wanted}", item.span?⟩

def decodeString : Item → Except Mismatch String
  | .string value _ => .ok value
  | item => .error (wrongKind item "a string")

def decodeBool : Item → Except Mismatch Bool
  | .boolean value _ => .ok value
  | item => .error (wrongKind item "a boolean")

/-- A number that is not negative. -/
def decodeNat : Item → Except Mismatch Nat
  | .integer value span =>
      if value < 0 then
        .error ⟨s!"invalid value: integer `{value}`, expected u64", some span⟩
      else
        .ok value.toNat
  | item => .error (wrongKind item "u64")

def decodeStrings : Item → Except Mismatch (List String)
  | .array items span =>
      items.mapM fun item => (decodeString item).mapError (·.around (some span))
  | .tables items =>
      items.mapM fun item => (decodeString item).mapError (·.around (Item.tables items).span?)
  | item => .error (wrongKind item "a sequence")

/-- The policy with the given name. -/
def decodePolicyName (name : String) (span : Option Span) : Except Mismatch ParseErrorPolicy :=
  if name = ParseErrorPolicy.abort.name then .ok .abort
  else if name = ParseErrorPolicy.skip.name then .ok .skip
  else .error ⟨s!"unknown variant `{name}`, expected `abort` or `skip`", span⟩

/-- What stands behind the name of a policy in a table has to be empty. -/
def decodeNothing : Item → Except Mismatch Unit
  | .array [] _ | .table _ [] | .tables [] => .ok ()
  | .array items span => .error ⟨"expected empty table", (Item.array items span).span?⟩
  | .table form entries => .error ⟨"expected empty table", (Item.table form entries).span?⟩
  | .tables items => .error ⟨"expected empty array", (Item.tables items).span?⟩
  | item => .error ⟨s!"expected table, found {item.kindName}", item.span?⟩

def decodePolicy : Item → Except Mismatch ParseErrorPolicy
  | .string name span => decodePolicyName name (some span)
  | .table form [] => .error ⟨"wanted exactly 1 element, found 0 elements", form.span⟩
  | .table form [(key, item)] => do
      let policy ← decodePolicyName key.name (some key.span)
      (decodeNothing item).mapError (·.around form.span)
      return policy
  | .table form _ => .error ⟨"wanted exactly 1 element, more than 1 element", form.span⟩
  | item => .error ⟨"wanted string or table", item.span?⟩

/-- A group of settings: for each name in the usual order, how an item sets
it. -/
abbrev Group (α : Type) := List (String × (α → Item → Except Mismatch α))

/-- Sets what the entries of a table say. -/
def decodeEntries {α : Type} (group : Group α) (entries : Entries) (settings : α) :
    Except Mismatch α :=
  entries.foldlM (fun settings (key, item) =>
    match group.lookup key.name with
    | none => .ok settings
    | some set => (set settings item).mapError (·.around (item.span? <|> some key.span)))
    settings

/-- Sets what the items of a list say, in the usual order. -/
def decodeList {α : Type} (group : Group α) (items : List Item) (settings : α) :
    Except Mismatch α :=
  (group.zip items).foldlM (fun settings ((_, set), item) => set settings item) settings

/-- Sets what an item says. -/
def decodeGroup {α : Type} (name : String) (group : Group α) (default : α) (item : Item) :
    Except Mismatch α :=
  match item with
  | .table _ entries => decodeEntries group entries default
  | .moment _ => .ok default
  | .array items span => (decodeList group items default).mapError (·.around (some span))
  | .tables items =>
      (decodeList group items default).mapError (·.around (Item.tables items).span?)
  | item => .error (wrongKind item s!"struct {name}")

def scanGroup : Group ScanConfig := [
  ("extensions", fun settings item => do
    return { settings with extensions := ← decodeStrings item }),
  ("extra_ignore", fun settings item => do
    return { settings with extraIgnore := ← decodeStrings item }),
  ("ignore_files", fun settings item => do
    return { settings with ignoreFiles := ← decodeStrings item }),
  ("max_file_size", fun settings item => do
    return { settings with maxFileSize := some (← decodeNat item) })]

def checkGroup : Group CheckConfig := [
  ("empty_is_missing", fun settings item => do
    return { settings with emptyIsMissing := some (← decodeBool item) }),
  ("on_parse_error", fun settings item => do
    return { settings with onParseError := some (← decodePolicy item) })]

def envGroup : Group EnvFileConfig := [
  ("file", fun settings item => do
    return { settings with file := some (← decodeString item) }),
  ("load", fun settings item => do
    return { settings with load := some (← decodeBool item) })]

def configGroup : Group Config := [
  ("scan", fun settings item => do
    return { settings with scan := ← decodeGroup "ScanConfig" scanGroup {} item }),
  ("check", fun settings item => do
    return { settings with check := ← decodeGroup "CheckConfig" checkGroup {} item }),
  ("env", fun settings item => do
    return { settings with env := ← decodeGroup "EnvFileConfig" envGroup {} item })]

/-- The settings that a text gives, or a message about what is wrong with it. -/
def readToml (text : String) : Except String Config :=
  match Toml.ofText text with
  | .error fault =>
      .error (Toml.Diagnostic.render text ⟨fault.left, fault.left - 1⟩ fault.message)
  | .ok entries =>
      match decodeEntries configGroup entries {} with
      | .ok config => .ok config
      | .error mismatch =>
          .error (Toml.Diagnostic.render text (mismatch.span.getD ⟨0, 0⟩) mismatch.message)

/-- The path that stands for a text that is in no file. -/
def inlineText : String := "<string>"

/-- The settings that a text gives. -/
def ofToml (text : String) : Except ConfigError Config :=
  (readToml text).mapError (.malformed inlineText)

end Config

end EnvAudit
