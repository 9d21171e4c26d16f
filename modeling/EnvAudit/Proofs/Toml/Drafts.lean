import EnvAudit.Proofs.Except
import EnvAudit.Proofs.Toml.Lines
import Mathlib.Data.List.Forall2

/-!
# Written documents

A document of tables whose settings are plain values is read as it was written.
-/

namespace EnvAudit

namespace Toml

/-- A line for each setting. -/
def writeSettings (settings : List (String × Plain)) : List Char :=
  settings.flatMap fun (name, plain) => Config.writeLine name plain.write

theorem writeSettings_cons (name : String) (plain : Plain) (settings : List (String × Plain)) :
    writeSettings ((name, plain) :: settings) =
      Config.writeLine name plain.write ++ writeSettings settings :=
  List.flatMap_cons

theorem writeSettings_append (settings further : List (String × Plain)) :
    writeSettings (settings ++ further) = writeSettings settings ++ writeSettings further :=
  List.flatMap_append

/-- A table whose settings are plain values. -/
structure FlatTable where
  name : String
  settings : List (String × Plain)

namespace FlatTable

/-- The header and the lines of the settings. -/
def write (table : FlatTable) : List Char :=
  Config.writeHeader table.name ++ writeSettings table.settings

/-- The table can be written, and no name is set twice in it. -/
structure Proper (table : FlatTable) : Prop where
  name : Bare table.name
  names : ∀ setting ∈ table.settings, Bare setting.1
  writable : ∀ setting ∈ table.settings, setting.2.Writable
  distinct : (table.settings.map Prod.fst).Nodup

end FlatTable

/-- Entries have the names and the values of settings, in the same order. -/
def Hold (settings : List (String × Plain)) (entries : Entries) : Prop :=
  List.Forall₂ (fun setting entry => entry.1.name = setting.1 ∧ setting.2.Shows entry.2)
    settings entries

/-- Entries are tables with the names and the settings of flat tables, in the same order. -/
def HoldTables (tables : List FlatTable) (entries : Entries) : Prop :=
  List.Forall₂ (fun table entry => entry.1.name = table.name ∧
    ∃ form inner, entry.2 = .table form inner ∧ Hold table.settings inner) tables entries

section Entries

variable {entries : Entries} {name : String}

theorem item?_eq_none_iff : entries.item? name = none ↔ name ∉ entries.map (·.1.name) := by
  induction entries with
  | nil => simp [Entries.item?]
  | cons entry entries ih =>
      obtain ⟨key, item⟩ := entry
      rw [Entries.item?]
      by_cases same : key.name = name
      · simp [same]
      · rw [if_neg (by simpa using same), ih, List.map_cons, List.mem_cons, not_or]
        exact ⟨fun absent => ⟨Ne.symm same, absent⟩, And.right⟩

/-- An entry with a name that is not there comes last. -/
theorem put_of_absent {key : Key} (absent : entries.item? key.name = none) (item : Item) :
    entries.put key item = entries ++ [(key, item)] := by
  induction entries with
  | nil => rfl
  | cons entry entries ih =>
      obtain ⟨other, kept⟩ := entry
      rw [Entries.item?] at absent
      split at absent
      · cases absent
      · next different => rw [Entries.put, if_neg different, ih absent, List.cons_append]

theorem erase_of_absent (absent : entries.item? name = none) : entries.erase name = entries := by
  rw [Entries.erase, List.filter_eq_self]
  intro entry member
  have different : entry.1.name ≠ name := by
    rintro rfl
    exact item?_eq_none_iff.mp absent (List.mem_map_of_mem member)
  simpa using different

theorem Hold.names {settings : List (String × Plain)} (hold : Hold settings entries) :
    entries.map (·.1.name) = settings.map Prod.fst := by
  induction hold with
  | nil => rfl
  | cons first _ ih => rw [List.map_cons, List.map_cons, first.1, ih]

theorem HoldTables.names {tables : List FlatTable} (hold : HoldTables tables entries) :
    entries.map (·.1.name) = tables.map FlatTable.name := by
  induction hold with
  | nil => rfl
  | cons first _ ih => rw [List.map_cons, List.map_cons, first.1, ih]

end Entries

namespace Draft

/-- The tables of a draft are these, with the current one. -/
def Settled (tables : List FlatTable) (draft : Draft) : Prop :=
  ∃ settled, draft.settle = .ok settled ∧ HoldTables tables settled.root.2

/-- The last of the tables is the current one. -/
structure Drafted (tables : List FlatTable) (current : FlatTable) (draft : Draft) : Prop where
  root : HoldTables tables draft.root.2
  form : draft.current.1.isDotted = false
  entries : Hold current.settings draft.current.2
  path : ∃ span, draft.path = [⟨current.name, span⟩]
  single : draft.isOneOfMany = false

variable {tables : List FlatTable} {current : FlatTable} {draft : Draft}

theorem settled_start : Settled [] .start :=
  ⟨_, rfl, .nil⟩

/-- A header begins a table without settings. -/
theorem Settled.openTable (settled : Settled tables draft) (key : Key)
    (fresh : key.name ∉ tables.map FlatTable.name) (span : Span) :
    ∃ after, draft.openTable [key] span = .ok after ∧ Drafted tables ⟨key.name, []⟩ after := by
  obtain ⟨settled, settles, hold⟩ := settled
  have absent : settled.root.2.item? key.name = none := by
    rw [item?_eq_none_iff, hold.names]
    exact fresh
  refine ⟨⟨settled.root, ({ span := some span }, []), [key], false⟩, ?_, hold, rfl, .nil,
    ⟨key.span, rfl⟩, rfl⟩
  rw [Draft.openTable, settles]
  simp [descend, Entries.below, absent, erase_of_absent absent, bind, Except.bind, pure,
    Except.pure]

/-- A line adds its setting to the current table. -/
theorem Drafted.add (drafted : Drafted tables current draft) (key : Key) {plain : Plain}
    {item : Item} (fresh : key.name ∉ current.settings.map Prod.fst) (shows : plain.Shows item) :
    ∃ after, draft.add ⟨[], key, item⟩ = .ok after ∧
      Drafted tables ⟨current.name, current.settings ++ [(key.name, plain)]⟩ after := by
  have absent : draft.current.2.item? key.name = none := by
    rw [item?_eq_none_iff, drafted.entries.names]
    exact fresh
  obtain ⟨root, ⟨form, entries⟩, path, many⟩ := draft
  let longer : TableForm := { form with span := form.span.map (·.upTo item.span?) }
  refine ⟨⟨root, (longer, entries ++ [(key, item)]), path, many⟩, ?_, drafted.root, drafted.form,
    ?_, drafted.path, drafted.single⟩
  · have notDotted : form.isDotted = false := drafted.form
    have unknown : entries.item? key.name = none := absent
    simp [Draft.add, addKeyValue, descend, unknown, put_of_absent unknown, notDotted, longer, bind,
      Except.bind, pure, Except.pure]
  · exact List.rel_append drafted.entries (.cons ⟨rfl, shows⟩ .nil)

/-- At its end, the current table takes its place behind the others. -/
theorem Drafted.settled (drafted : Drafted tables current draft)
    (fresh : current.name ∉ tables.map FlatTable.name) :
    Settled (tables ++ [current]) draft := by
  obtain ⟨span, path⟩ := drafted.path
  have absent : draft.root.2.item? current.name = none := by
    rw [item?_eq_none_iff, drafted.root.names]
    exact fresh
  obtain ⟨⟨rootForm, rootEntries⟩, ⟨form, entries⟩, names, many⟩ := draft
  obtain rfl := drafted.single
  obtain rfl : names = [⟨current.name, span⟩] := path
  let settledRoot : Entries := rootEntries ++ [(⟨current.name, span⟩, .table form entries)]
  have hold : HoldTables (tables ++ [current]) settledRoot :=
    List.rel_append drafted.root (.cons ⟨rfl, form, entries, rfl, drafted.entries⟩ .nil)
  refine ⟨⟨(rootForm, settledRoot), ({}, []), [], false⟩, ?_, hold⟩
  have unknown : rootEntries.item? current.name = none := absent
  have put := put_of_absent (show rootEntries.item? (Key.mk current.name span).name = none from
    unknown) (.table form entries)
  simp [Draft.settle, descend, unknown, put, settledRoot, bind, Except.bind, pure, Except.pure]

end Draft

/-- The text of a document: the tables with a line between them. -/
def writeTables (first : FlatTable) (others : List FlatTable) : List Char :=
  first.write ++ others.flatMap fun table => '\n' :: table.write

namespace Reader

variable {tables : List FlatTable} {draft : Draft} {rest : List Char}

theorem stops_writeSettings {settings : List (String × Plain)}
    (names : ∀ setting ∈ settings, Bare setting.1) (stops : Text.Stops isSpace rest) :
    Text.Stops isSpace (writeSettings settings ++ rest) := by
  cases settings with
  | nil => exact stops
  | cons setting settings =>
      obtain ⟨c, others, whole, inFront⟩ := (names setting List.mem_cons_self).exists_cons
      simp only [writeSettings, List.flatMap_cons, Config.writeLine, whole, List.cons_append]
      exact Text.stops_cons (isSpace_of_isBareKey inFront) _

theorem notMem_map_of_nodup {α : Type} {label : α → String} {before behind : List α} {item : α}
    (distinct : ((before ++ item :: behind).map label).Nodup) : label item ∉ before.map label := by
  rw [List.map_append, List.nodup_append] at distinct
  exact fun known => distinct.2.2 _ known _ List.mem_cons_self rfl

/-- Each line adds its setting to the current table. -/
theorem lines_writeSettings {name : String} {before settings : List (String × Plain)}
    (drafted : draft.Drafted tables ⟨name, before⟩)
    (names : ∀ setting ∈ settings, Bare setting.1)
    (writable : ∀ setting ∈ settings, setting.2.Writable)
    (distinct : ((before ++ settings).map Prod.fst).Nodup) (stops : Text.Stops isSpace rest) :
    ∃ after, Draft.Drafted tables ⟨name, before ++ settings⟩ after ∧
      lines draft (writeSettings settings ++ rest) = lines after rest := by
  induction settings generalizing before draft with
  | nil => exact ⟨draft, by rwa [List.append_nil], rfl⟩
  | cons setting settings ih =>
      obtain ⟨key, plain⟩ := setting
      obtain ⟨bare, furtherNames⟩ := List.forall_mem_cons.mp names
      obtain ⟨good, furtherGood⟩ := List.forall_mem_cons.mp writable
      have fresh : key ∉ before.map Prod.fst := notMem_map_of_nodup distinct
      have adds (span : Span) (item : Item) (shows : plain.Shows item) : ∃ after,
          draft.add ⟨[], ⟨key, span⟩, item⟩ = .ok after ∧
            Draft.Drafted tables ⟨name, before ++ [(key, plain)]⟩ after :=
        drafted.add ⟨key, span⟩ fresh shows
      obtain ⟨between, betweenDrafted, first⟩ :=
        line_pair bare good (writeSettings settings ++ rest) adds
      obtain ⟨after, afterDrafted, others⟩ := ih betweenDrafted furtherNames furtherGood
        (by rwa [List.append_assoc, List.singleton_append])
      rw [List.append_assoc, List.singleton_append] at afterDrafted
      refine ⟨after, afterDrafted, ?_⟩
      rw [writeSettings_cons, List.append_assoc,
        lines_done first ?_ (stops_writeSettings furtherNames stops), others]
      simp only [Config.writeLine, List.length_append, List.length_cons]
      omega

/-- A table is taken up behind the others. -/
theorem lines_write {table : FlatTable} (settled : draft.Settled tables) (proper : table.Proper)
    (fresh : table.name ∉ tables.map FlatTable.name) (stops : Text.Stops isSpace rest) :
    ∃ after, Draft.Settled (tables ++ [table]) after ∧
      lines draft (table.write ++ rest) = lines after rest := by
  have opens (span place : Span) : ∃ after,
      draft.openTable [⟨table.name, span⟩] place = .ok after ∧
        Draft.Drafted tables ⟨table.name, []⟩ after :=
    Draft.Settled.openTable settled ⟨table.name, span⟩ fresh place
  obtain ⟨between, drafted, first⟩ :=
    line_header proper.name (writeSettings table.settings ++ rest) opens
  obtain ⟨after, drafted, others⟩ := lines_writeSettings drafted proper.names proper.writable
    proper.distinct stops
  refine ⟨after, drafted.settled fresh, ?_⟩
  rw [FlatTable.write, List.append_assoc,
    lines_done first ?_ (stops_writeSettings proper.names stops), others]
  simp only [Config.writeHeader, List.length_append, List.length_cons]
  omega

theorem stops_further (others : List FlatTable) :
    Text.Stops isSpace (others.flatMap fun table => '\n' :: table.write) := by
  cases others with
  | nil => exact Text.stops_nil _
  | cons table others => exact Text.stops_cons rfl _

theorem stops_write_table (table : FlatTable) (rest : List Char) :
    Text.Stops isSpace (table.write ++ rest) :=
  Text.stops_cons rfl _

/-- Further tables have a line before each. -/
theorem lines_further (settled : draft.Settled tables) (others : List FlatTable)
    (proper : ∀ table ∈ others, table.Proper)
    (distinct : ((tables ++ others).map FlatTable.name).Nodup) :
    ∃ after, Draft.Settled (tables ++ others) after ∧
      lines draft (others.flatMap fun table => '\n' :: table.write) = .done after [] := by
  induction others generalizing tables draft with
  | nil =>
      rw [List.append_nil]
      exact ⟨draft, settled, by rw [List.flatMap_nil, lines, if_pos rfl]⟩
  | cons table others ih =>
      obtain ⟨good, furtherGood⟩ := List.forall_mem_cons.mp proper
      have fresh : table.name ∉ tables.map FlatTable.name := notMem_map_of_nodup distinct
      have behind := stops_further others
      obtain ⟨between, betweenSettled, first⟩ := lines_write settled good fresh behind
      obtain ⟨after, afterSettled, further⟩ := ih betweenSettled furtherGood
        (by rwa [List.append_assoc, List.singleton_append])
      rw [List.append_assoc, List.singleton_append] at afterSettled
      refine ⟨after, afterSettled, ?_⟩
      rw [List.flatMap_cons, List.cons_append,
        lines_done (line_blank draft _) (Nat.lt_succ_self _) (stops_write_table table _), first,
        further]

end Reader

/-- A document is read as it was written. -/
theorem ofText_writeTables (first : FlatTable) (others : List FlatTable)
    (proper : ∀ table ∈ first :: others, table.Proper)
    (distinct : ((first :: others).map FlatTable.name).Nodup) :
    ∃ entries, ofText (.ofList (writeTables first others)) = .ok entries ∧
      HoldTables (first :: others) entries := by
  obtain ⟨good, furtherGood⟩ := List.forall_mem_cons.mp proper
  obtain ⟨between, betweenSettled, begins⟩ := Reader.lines_write Draft.settled_start good
    List.not_mem_nil (Reader.stops_further others)
  obtain ⟨after, ⟨settled, settles, hold⟩, further⟩ :=
    Reader.lines_further betweenSettled others furtherGood distinct
  have reads : Reader.lines .start (writeTables first others) = .done after [] := by
    rw [writeTables, begins, further]
  have bracket : (writeTables first others).head? = some '[' := rfl
  have noMark : (writeTables first others).head? ≠ some '\ufeff' := by
    rw [bracket]
    decide
  have noBlank : (writeTables first others).dropWhile isSpace = writeTables first others :=
    (Reader.stops_write_table first _).dropWhile
  refine ⟨settled.root.2, ?_, hold⟩
  simp only [ofText, String.toList_ofList, if_neg noMark, noBlank, reads, settles]

end Toml

end EnvAudit
