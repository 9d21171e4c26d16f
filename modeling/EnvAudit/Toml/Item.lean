import EnvAudit.Toml.Reader

/-!
# Items of a TOML document

A document is a table: names with values, tables and arrays of tables.  Each
item knows where it stands in the text.
-/

namespace EnvAudit

namespace Toml

/-- A piece of a text, by the numbers of characters left before and behind it. -/
structure Span where
  start : Nat
  stop : Nat
  deriving BEq, DecidableEq, Repr, Inhabited

/-- The piece of the text up to the end of another piece, if there is one. -/
def Span.upTo (span : Span) (other : Option Span) : Span :=
  { span with stop := (other.map Span.stop).getD span.stop }

/-- A name as it stands in a text. -/
structure Key where
  name : String
  span : Span
  deriving BEq, DecidableEq, Repr, Inhabited

/-- How a table came about. -/
structure TableForm where
  /-- The table is a value, between braces. -/
  isInline : Bool := false
  /-- The table is there only because something stands below it. -/
  isImplicit : Bool := false
  /-- The table comes from a key with dots. -/
  isDotted : Bool := false
  span : Option Span := none
  deriving BEq, DecidableEq, Repr, Inhabited

inductive Item where
  | string (value : String) (span : Span)
  | integer (value : Int) (span : Span)
  | float (value : Float) (span : Span)
  | boolean (value : Bool) (span : Span)
  /-- A date or a time; which one it is does not matter here. -/
  | moment (span : Span)
  | array (items : List Item) (span : Span)
  | table (form : TableForm) (entries : List (Key × Item))
  /-- Tables that share a name. -/
  | tables (items : List Item)
  deriving Inhabited

namespace Item

/-- The place of an item that stands for itself in the text. -/
def ownSpan? : Item → Option Span
  | string _ span | integer _ span | float _ span | boolean _ span | moment span
  | array _ span => some span
  | table form _ => form.span
  | tables _ => none

/-- The place of an item; that of several tables goes from the first to the
last of them. -/
def span? : Item → Option Span
  | tables items => do
      let first ← items.head?.bind ownSpan?
      let last ← items.getLast?.bind ownSpan?
      return ⟨first.start, last.stop⟩
  | item => item.ownSpan?

/-- The word for an item of its kind. -/
def kindName : Item → String
  | string .. => "string"
  | integer .. => "integer"
  | float .. => "float"
  | boolean .. => "boolean"
  | moment _ => "datetime"
  | array .. => "array"
  | table form _ => if form.isInline then "inline table" else "table"
  | tables _ => "array of tables"

end Item

/-- Names with items, in order. -/
abbrev Entries := List (Key × Item)

namespace Entries

/-- The item of a name. -/
def item? : Entries → String → Option Item
  | [], _ => none
  | (key, item) :: entries, name => if key.name == name then some item else item? entries name

/-- Entries without the one of a name. -/
def erase (entries : Entries) (name : String) : Entries :=
  entries.filter fun entry => entry.1.name != name

/-- Entries with the item of a name replaced, or with it added at the end. -/
def put (entries : Entries) (key : Key) (item : Item) : Entries :=
  match entries with
  | [] => [(key, item)]
  | (other, kept) :: entries =>
      if other.name == key.name then
        (other, item) :: entries
      else
        (other, kept) :: put entries key item

/-- The entries to which names lead; several tables of one name stand for the
last of them. -/
def below : Entries → List Key → Entries
  | entries, [] => entries
  | entries, key :: path =>
      match entries.item? key.name with
      | some (.table _ inner) => below inner path
      | some (.tables items) =>
          match items.getLast? with
          | some (.table _ inner) => below inner path
          | _ => []
      | _ => []

end Entries

end Toml

end EnvAudit
