import EnvAudit.Toml.Item
import EnvAudit.Toml.Number
import EnvAudit.Toml.Written

/-!
# Values of a TOML document

Values are read down to a limited depth.  A table between braces is put
together from its keys, each of which may lead through tables of its own.
-/

namespace EnvAudit

namespace Toml

/-- Why a document cannot be put together. -/
inductive Conflict where
  /-- A name is given twice, in the table to which the other names lead. -/
  | duplicateKey (key : String) (table : Option (List String))
  /-- Names lead below something that is no table. -/
  | extendsValue (path : List String) (kind : String)
  | tooDeep
  deriving BEq, DecidableEq, Repr

/-- Names with dots between them. -/
def dotted (names : List String) : String :=
  ".".intercalate names

def Conflict.message : Conflict → String
  | duplicateKey key none => s!"duplicate key `{key}`"
  | duplicateKey key (some []) => s!"duplicate key `{key}` in document root"
  | duplicateKey key (some path) => s!"duplicate key `{key}` in table `{dotted path}`"
  | extendsValue path kind =>
      s!"dotted key `{dotted path}` attempted to extend non-table type ({kind})"
  | tooDeep => "recursion limit exceeded"

/-- The greatest depth of nested values, and of names in a key. -/
def depthLimit : Nat := 80

/-- A key and its value: the names that lead to the table, the name in it and
the item. -/
structure KeyValue where
  path : List Key
  key : Key
  item : Item
  deriving Inhabited

/-- Changes the table to which names lead from the one with the given entries,
and makes those that are not there.  `passed` are the names before; `dotted`
says that the names are those of a key and not of a header. -/
def descend (dotted : Bool) (inline : Bool) (passed : List String) :
    (path : List Key) → TableForm → Entries →
      (TableForm → Entries → Except Conflict (TableForm × Entries)) →
      Except Conflict (TableForm × Entries)
  | [], form, entries, change => change form entries
  | key :: path, form, entries, change => do
      let fresh : Item :=
        .table { isInline := inline, isImplicit := true, isDotted := dotted } []
      let inner ← match (entries.item? key.name).getD fresh with
        | .table innerForm innerEntries =>
            if innerForm.isInline != inline then
              throw (.extendsValue (passed ++ [key.name]) "inline table")
            else if dotted && !innerForm.isImplicit then
              throw (.duplicateKey key.name none)
            else
              let (form, entries) ←
                descend dotted inline (passed ++ [key.name]) path innerForm innerEntries change
              pure (Item.table form entries)
        | .tables items =>
            match items.reverse with
            | .table lastForm lastEntries :: before =>
                let (form, entries) ←
                  descend dotted inline (passed ++ [key.name]) path lastForm lastEntries change
                pure (Item.tables (Item.table form entries :: before).reverse)
            | _ => throw (.extendsValue (passed ++ [key.name]) "array of tables")
        | item => throw (.extendsValue (passed ++ [key.name]) item.kindName)
      return (form, entries.put key inner)

/-- Adds a value to the table with the given entries.  `table` are the names of
that table, where they are told. -/
def addKeyValue (inline : Bool) (table : Option (List String)) (form : TableForm)
    (entries : Entries) (pair : KeyValue) : Except Conflict (TableForm × Entries) :=
  descend true inline [] pair.path form entries fun form entries =>
    if form.isDotted == pair.path.isEmpty then
      .error (.duplicateKey pair.key.name none)
    else if (entries.item? pair.key.name).isSome then
      .error (.duplicateKey pair.key.name table)
    else
      .ok (form, entries.put pair.key pair.item)

namespace Reader

/-- A comment up to the end of its line. -/
def comment : Reader Unit := do
  let _ ← char '#'
  let _ ← run isComment

/-- A blank, a comment with the end of its line, or the end of a line. -/
def gap : Reader Unit :=
  (do let _ ← someRun isSpace).orElse <|
    (do let _ ← newline).orElse do
      comment
      let _ ← newline

/-- What may stand between the items of an array.  A comment or a carriage
return without the end of a line is a fault. -/
def gaps : Reader Unit := do
  let _ ← many gap
  let next ← ahead (optional (one fun c => c == '#' || c == '\r'))
  match next with
  | some '#' => do
      comment
      let _ ← newline
  | some _ => do let _ ← newline
  | none => pure ()

/-- A name without quotes. -/
def bareKey : Reader (List Char) :=
  someRun isBareKey

/-- A name. -/
def simpleKey : Reader (List Char)
  | '"' :: rest => basicString ('"' :: rest)
  | '\'' :: rest => literalString ('\'' :: rest)
  | chars => bareKey chars

/-- Names that lead to one another. -/
def key : Reader (List Key) :=
  let name : Reader Key := do
    spaces
    let (name, start, stop) ← spanned simpleKey
    spaces
    return { name := .ofList name, span := ⟨start, stop⟩ }
  (labelled "key" (someSeparated name (char '.'))).check fun keys =>
    if keys.length < depthLimit then .ok keys else .error Conflict.tooDeep.message

/-- The sign between a key and its value. -/
def equals : Reader Unit :=
  expecting "`=`" <| expecting "`.`" do let _ ← char '='

/-- The pair of a key and an item. -/
def pairOf (keys : List Key) (item : Item) : KeyValue :=
  { path := keys.dropLast, key := keys.getLastD default, item }

/-- A reading where otherwise only a string could stand. -/
def unlessString {α : Type} (reader : Reader α) : Reader α :=
  expecting "`'`" <| expecting "`\"`" <| labelled "string" reader

/-- A date, a time or a number. -/
def numeral : Reader (Span → Item) :=
  (do
    dateTime
    return Item.moment).orElse <|
    (do
      let value ← float
      return Item.float value).orElse do
        let value ← integer
        return Item.integer value

/-- The items between brackets. -/
def arrayItems (value : Reader Item) : Reader (List Item) := fun chars =>
  if chars.head? = some ']' then
    .done [] chars
  else
    (do
      let items ← separated
        (do
          gaps
          let item ← value
          gaps
          return item)
        (char ',')
      if !items.isEmpty then
        let _ ← optional (char ',')
      gaps
      return items : Reader (List Item)) chars

/-- The table between braces. -/
def inlineEntries (value : Reader Item) : Reader Entries :=
  let pair : Reader KeyValue := do
    let keys ← key
    final do
      equals
      spaces
      let item ← value
      spaces
      return pairOf keys item
  (do
    let pairs ← separated pair (char ',')
    spaces
    return pairs).check fun pairs =>
      match pairs.foldlM (fun table pair => addKeyValue true none table.1 table.2 pair)
          ({ isInline := true }, []) with
      | .ok (_, entries) => .ok entries
      | .error conflict => .error conflict.message

/-- The depth goes on, unless the limit has been reached. -/
def deeper (depth : Nat) : Reader Unit := fun chars =>
  if depth = 0 then
    .stop { left := chars.length, cause := some Conflict.tooDeep.message }
  else
    .done () chars

mutual

/-- What a value is, without its place. -/
def bareValue (depth : Nat) : Reader (Span → Item) := fun chars =>
  match chars.head? with
  | none => (refuse : Reader (Span → Item)) chars
  | some c =>
      let reader : Reader (Span → Item) :=
        if c == '"' || c == '\'' then do
          let content ← string
          return .string (.ofList content)
        else if c == '[' then do
          deeper depth
          let _ ← char '['
          let items ← final (arrayItems (value depth))
          expecting "`]`" <| labelled "array" <| final do let _ ← char ']'
          return .array items
        else if c == '\x7b' then do
          deeper depth
          let _ ← char '\x7b'
          let entries ← final (inlineEntries (value depth))
          expecting "`\x7d`" <| labelled "inline table" <| final do let _ ← char '\x7d'
          return fun span => .table { isInline := true, span := some span } entries
        else if c == '+' || c == '-' || isDigit c then
          numeral
        else if c == '_' then
          expecting "leading digit" do
            let value ← integer
            return .integer value
        else if c == '.' then
          expecting "leading digit" do
            let value ← float
            return .float value
        else if c == 't' then do
          unlessString (final (literal "true".toList))
          return .boolean true
        else if c == 'f' then do
          unlessString (final (literal "false".toList))
          return .boolean false
        else if c == 'i' then do
          unlessString (literal "inf".toList)
          return .float (1.0 / 0.0)
        else if c == 'n' then do
          unlessString (literal "nan".toList)
          return .float (0.0 / 0.0)
        else
          unlessString refuse
      reader chars

/-- A value, in which others may nest to the given depth. -/
def value : (depth : Nat) → Reader Item
  | 0 => refuse
  | depth + 1 => do
      let (make, start, stop) ← spanned (bareValue depth)
      return make ⟨start, stop⟩

end

end Reader

end Toml

end EnvAudit
