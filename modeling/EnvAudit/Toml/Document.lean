import EnvAudit.Toml.Value

/-!
# TOML documents

A document is a row of lines: keys with values, and headers that name the table
to which the following keys belong.
-/

namespace EnvAudit

namespace Toml

/-- What has been read of a document. -/
structure Draft where
  root : TableForm × Entries
  /-- The table to which keys belong at present. -/
  current : TableForm × Entries
  /-- The names of that table; the root has none. -/
  path : List Key
  /-- The table is one of several that share a name. -/
  isOneOfMany : Bool
  deriving Inhabited

namespace Draft

def start : Draft := ⟨({}, []), ({}, []), [], false⟩

/-- A name twice in a header; it is shown as it would be written. -/
def duplicateHeader (path : List Key) : Conflict :=
  .duplicateKey (.ofList (writeKey ((path.getLastD default).name.toList)))
    (some (path.dropLast.map Key.name))

/-- Puts the current table in its place. -/
def settle (draft : Draft) : Except Conflict Draft :=
  let (form, entries) := draft.current
  let (rootForm, rootEntries) := draft.root
  match draft.path.getLast? with
  | none => .ok { draft with root := draft.current, current := ({}, []) }
  | some key => do
      let root ← descend false false [] draft.path.dropLast rootForm rootEntries
        fun parentForm parent =>
          if draft.isOneOfMany then
            match parent.item? key.name with
            | none => .ok (parentForm, parent.put key (.tables [.table form entries]))
            | some (.tables items) =>
                .ok (parentForm, parent.put key (.tables (items ++ [.table form entries])))
            | some _ => .error (duplicateHeader draft.path)
          else
            match parent.item? key.name with
            | none => .ok (parentForm, parent.put key (.table form entries))
            | some (.table other _) =>
                if other.isImplicit && !other.isInline then
                  .ok (parentForm, parent.put key (.table form entries))
                else
                  .error (duplicateHeader draft.path)
            | some _ => .error (duplicateHeader draft.path)
      return { draft with root, current := ({}, []), path := [], isOneOfMany := false }

/-- Begins the table of a header.  A table that is there only because something
stands below it is taken up again. -/
def openTable (path : List Key) (span : Span) (draft : Draft) : Except Conflict Draft := do
  let draft ← draft.settle
  let above := path.dropLast
  let name := (path.getLastD default).name
  let (form, entries) ← descend false false [] above draft.root.1 draft.root.2
    fun form entries => .ok (form, entries)
  let taken ← match (entries.below above).item? name with
    | none => pure []
    | some (.table form entries) =>
        if form.isImplicit && !form.isDotted && !form.isInline then
          pure entries
        else
          throw (duplicateHeader path)
    | some _ => throw (duplicateHeader path)
  let root ← descend false false [] above form entries fun form entries =>
    .ok (form, entries.erase name)
  return { root, current := ({ span := some span }, taken), path, isOneOfMany := false }

/-- Begins one of several tables that share a name. -/
def openOneOfMany (path : List Key) (span : Span) (draft : Draft) : Except Conflict Draft := do
  let draft ← draft.settle
  let key := path.getLastD default
  let (rootForm, rootEntries) := draft.root
  let root ← descend false false [] path.dropLast rootForm rootEntries fun form entries =>
    match entries.item? key.name with
    | none => .ok (form, entries.put key (.tables []))
    | some (.tables _) => .ok (form, entries)
    | some _ => .error (duplicateHeader path)
  return { root, current := ({ span := some span }, []), path, isOneOfMany := true }

/-- Adds a key with its value to the current table, whose place then goes on to
the end of the value. -/
def add (pair : KeyValue) (draft : Draft) : Except Conflict Draft := do
  let (form, entries) := draft.current
  let form := { form with span := form.span.map fun span => span.upTo pair.item.span? }
  let current ← addKeyValue false (some (draft.path.map Key.name)) form entries pair
  return { draft with current }

end Draft

namespace Reader

/-- What may stand at the end of a line. -/
def lineEnd : Reader Unit :=
  expecting "`#`" <| expecting "newline" do
    spaces
    let _ ← optional comment
    (do let _ ← newline).orElse ending

/-- A key with its value. -/
def pairLine : Reader KeyValue := do
  let keys ← key
  final do
    equals
    spaces
    let item ← value depthLimit
    lineEnd
    return pairOf keys item

/-- A header: its names and its place. -/
def header (opening closing : String) : Reader (List Key × Span) := do
  let (keys, start, stop) ← spanned do
    literal opening.toList
    let keys ← final key
    expecting s!"`{closing}`" <| expecting "`.`" <| final (literal closing.toList)
    return keys
  final lineEnd
  return (keys, ⟨start, stop⟩)

/-- A change of a draft, where a conflict is a fault at the place where the
reading began. -/
def changing {α : Type} (draft : Draft) (change : α → Draft → Except Conflict Draft)
    (reader : Reader α) : Reader Draft :=
  reader.check fun value =>
    match change value draft with
    | .ok draft => .ok draft
    | .error conflict => .error conflict.message

/-- A line of a document. -/
def line (draft : Draft) : Reader Draft := fun chars =>
  match chars with
  | '#' :: _ =>
      (final do
        comment
        (do let _ ← newline).orElse ending
        return draft : Reader Draft) chars
  | '\n' :: _ | '\r' :: _ =>
      (do
        let _ ← newline
        return draft : Reader Draft) chars
  | '[' :: '[' :: _ =>
      (final <| labelled "table header" <|
        changing draft (fun (path, span) draft => draft.openOneOfMany path span)
          (header "[[" "]]")) chars
  | ['['] => (final (labelled "table header" refuse) : Reader Draft) chars
  | '[' :: _ =>
      (final <| labelled "table header" <|
        changing draft (fun (path, span) draft => draft.openTable path span)
          (header "[" "]")) chars
  | _ => (final <| changing draft (fun pair draft => draft.add pair) pairLine) chars

/-- The lines of a document from a place on. -/
def lines (draft : Draft) (chars : List Char) : Reply Draft :=
  if chars = [] then
    .done draft []
  else
    match line draft chars with
    | .retry _ => .stop { left := chars.length }
    | .stop fault => .stop fault
    | .done draft rest =>
        let rest := rest.dropWhile isSpace
        if rest.length < chars.length then lines draft rest else .done draft rest
termination_by chars.length

end Reader

/-- Reads a document: the entries of its root. -/
def ofText (text : String) : Except Fault Entries :=
  let chars := text.toList
  let chars := if chars.head? = some '\ufeff' then chars.tail else chars
  match Reader.lines .start (chars.dropWhile isSpace) with
  | .done draft _ =>
      match draft.settle with
      | .ok draft => .ok draft.root.2
      | .error conflict => .error { left := 0, cause := some conflict.message }
  | .retry fault | .stop fault => .error fault

end Toml

end EnvAudit
