import EnvAudit.Proofs.Dialect
import EnvAudit.Proofs.Files.Reached
import EnvAudit.Proofs.Walk.Visit

/-!
# What a walk overlooks

A walk does not look below ignored directories, and it looks at no bytes of files that
are ignored, have no wanted extension or are too large.  From trees that differ only
there it collects the same, and what it collects has the same content.
-/

namespace EnvAudit

namespace Collector

/-- What an entry leads to in two trees looks the same to a walk that goes no further. -/
inductive LooksAlike (collector : Collector) (rules : IgnoreRules) (path relative : String) :
    Except Failure (Located × Nat) → Except Failure (Located × Nat) → Prop
  | failure (failure : Failure) :
      LooksAlike collector rules path relative (.error failure) (.error failure)
  | ignoredDirectory {inner other : Place} {left otherLeft : Nat}
      (ignored : rules.isIgnored relative true = true) :
      LooksAlike collector rules path relative (.ok (.directory inner, left))
        (.ok (.directory other, otherLeft))
  | ignoredFile {readable otherReadable : Bool} {content otherContent : ByteArray}
      {left otherLeft : Nat} (ignored : rules.isIgnored relative false = true) :
      LooksAlike collector rules path relative (.ok (.file readable content, left))
        (.ok (.file otherReadable otherContent, otherLeft))
  | unwanted {readable otherReadable : Bool} {content otherContent : ByteArray}
      {left otherLeft : Nat} (unwanted : collector.dialectFor? path = none) :
      LooksAlike collector rules path relative (.ok (.file readable content, left))
        (.ok (.file otherReadable otherContent, otherLeft))
  | large {readable otherReadable : Bool} {content otherContent : ByteArray}
      {left otherLeft : Nat} (large : collector.maxFileSize < content.size)
      (otherLarge : collector.maxFileSize < otherContent.size) :
      LooksAlike collector rules path relative (.ok (.file readable content, left))
        (.ok (.file otherReadable otherContent, otherLeft))
  | file (readable : Bool) (content : ByteArray) {left otherLeft : Nat} :
      LooksAlike collector rules path relative (.ok (.file readable content, left))
        (.ok (.file readable content, otherLeft))

/-- Two trees list the same names here, and at each name and below it differ in nothing but
what a walk overlooks. -/
inductive Alike (collector : Collector) (rules : IgnoreRules) (files others : FileSystem) :
    (links otherLinks : Nat) → (place other : Place) → (path relative : String) →
    (entries otherEntries : List (String × Entry)) → Prop
  | nil {links otherLinks : Nat} {place other : Place} {path relative : String} :
      Alike collector rules files others links otherLinks place other path relative [] []
  | item {links otherLinks : Nat} {place other : Place} {path relative name : String}
      {entry otherEntry : Entry} {entries otherEntries : List (String × Entry)}
      (here : LooksAlike collector rules (Path.join path name) (relativePath relative name)
        (files.resolve links place entry) (others.resolve otherLinks other otherEntry))
      (further : Alike collector rules files others links otherLinks place other path relative
        entries otherEntries) :
      Alike collector rules files others links otherLinks place other path relative
        ((name, entry) :: entries) ((name, otherEntry) :: otherEntries)
  | directory {links otherLinks left otherLeft : Nat} {place other inner otherInner : Place}
      {path relative name : String} {entry otherEntry : Entry}
      {entries otherEntries : List (String × Entry)}
      (resolved : files.resolve links place entry = .ok (.directory inner, left))
      (otherResolved : others.resolve otherLinks other otherEntry =
        .ok (.directory otherInner, otherLeft))
      (readable : inner.here.readable = otherInner.here.readable)
      (inside : Alike collector rules files others left otherLeft inner otherInner
        (Path.join path name) (relativePath relative name) inner.here.entries
        otherInner.here.entries)
      (further : Alike collector rules files others links otherLinks place other path relative
        entries otherEntries) :
      Alike collector rules files others links otherLinks place other path relative
        ((name, entry) :: entries) ((name, otherEntry) :: otherEntries)

/-- A root leads to the same in two trees but for what a walk from there overlooks. -/
inductive AlikeFrom (collector : Collector) (rules : IgnoreRules) (files others : FileSystem)
    (root : String) : Prop
  | failure (failure : Failure) (located : files.locate root = .error failure)
      (otherLocated : others.locate root = .error failure)
  | file {readable otherReadable : Bool} {content otherContent : ByteArray}
      {links otherLinks : Nat} (located : files.locate root = .ok (.file readable content, links))
      (otherLocated : others.locate root = .ok (.file otherReadable otherContent, otherLinks))
  | directory {place other : Place} {links otherLinks : Nat}
      (located : files.locate root = .ok (.directory place, links))
      (otherLocated : others.locate root = .ok (.directory other, otherLinks))
      (readable : place.here.readable = other.here.readable)
      (entries : Alike collector rules files others links otherLinks place other root ""
        place.here.entries other.here.entries)

variable {collector : Collector} {rules : IgnoreRules} {files others : FileSystem}
variable {links otherLinks : Nat} {place other : Place} {path relative : String}
variable {entries otherEntries : List (String × Entry)} {collection : Collection}

theorem visit_of_looksAlike {name : String} {entry otherEntry : Entry}
    (here : LooksAlike collector rules (Path.join path name) (relativePath relative name)
      (files.resolve links place entry) (others.resolve otherLinks other otherEntry)) :
    collector.visit files rules links place path relative (name, entry) =
      collector.visit others rules otherLinks other path relative (name, otherEntry) := by
  simp only [visit]
  split
  · rfl
  · generalize files.resolve links place entry = first at here
    generalize others.resolve otherLinks other otherEntry = second at here
    cases here with
    | failure failure => rfl
    | ignoredDirectory ignored => simp only [enter, ignored, if_true]
    | ignoredFile ignored => simp only [enter, ignored, if_true]
    | unwanted unwanted => simp only [enter, collectFile, unwanted]
    | large large otherLarge =>
        simp only [enter, collectFile, if_pos large, if_pos otherLarge]
    | file readable content => rfl

theorem visit_of_directories {name : String} {entry otherEntry : Entry} {inner otherInner : Place}
    {left otherLeft : Nat}
    (resolved : files.resolve links place entry = .ok (.directory inner, left))
    (otherResolved : others.resolve otherLinks other otherEntry =
      .ok (.directory otherInner, otherLeft))
    (readable : inner.here.readable = otherInner.here.readable)
    (inside : collector.walkEntries files rules left inner (Path.join path name)
        (relativePath relative name) inner.here.entries =
      collector.walkEntries others rules otherLeft otherInner (Path.join path name)
        (relativePath relative name) otherInner.here.entries) :
    collector.visit files rules links place path relative (name, entry) =
      collector.visit others rules otherLinks other path relative (name, otherEntry) := by
  simp only [visit, resolved, otherResolved, enter, readable, inside]

/-- A walk collects the same from trees that differ in what it overlooks, or fails in the same
way. -/
theorem walkEntries_of_alike
    (alike : Alike collector rules files others links otherLinks place other path relative
      entries otherEntries) :
    collector.walkEntries files rules links place path relative entries =
      collector.walkEntries others rules otherLinks other path relative otherEntries := by
  induction alike with
  | nil => rw [walkEntries_nil, walkEntries_nil]
  | item here further ih =>
      rw [walkEntries_cons, walkEntries_cons, visit_of_looksAlike here, ih]
  | directory resolved otherResolved readable inside further insideIh ih =>
      rw [walkEntries_cons, walkEntries_cons,
        visit_of_directories resolved otherResolved readable insideIh, ih]

theorem collect_of_alikeFrom {root : String}
    (alike : AlikeFrom collector rules files others root) :
    collector.collect files root rules = collector.collect others root rules := by
  cases alike with
  | failure failure located otherLocated => simp only [collect, located, otherLocated]
  | file located otherLocated => simp only [collect, located, otherLocated]
  | directory located otherLocated readable entries =>
      simp only [collect, located, otherLocated, readable, walkEntries_of_alike entries]

theorem mem_files_enter {readable : Bool} {content : ByteArray} {left : Nat} {part : Collection}
    {file : SourceFile}
    (entered : collector.enter files rules path relative (.file readable content) left = .ok part)
    (member : file ∈ part.files) :
    rules.isIgnored relative false = false ∧ collector.dialectFor? path = some file.dialect ∧
      content.size ≤ collector.maxFileSize ∧ file.path = path := by
  rw [enter] at entered
  split at entered
  · cases entered
    cases member
  · rename_i kept
    cases entered
    obtain ⟨wanted, small, isPath, _⟩ := mem_files_collectFile.mp member
    exact ⟨by simpa using kept, wanted, small, isPath⟩

theorem read_of_looksAlike {name : String} {entry otherEntry : Entry} {part : Collection}
    {file : SourceFile}
    (here : LooksAlike collector rules (Path.join path name) (relativePath relative name)
      (files.resolve links place entry) (others.resolve otherLinks other otherEntry))
    (reached : files.Reached links place path ((name, entry) :: entries))
    (otherReached : others.Reached otherLinks other path ((name, otherEntry) :: otherEntries))
    (visited : collector.visit files rules links place path relative (name, entry) = .ok part)
    (member : file ∈ part.files) : files.read file.path = others.read file.path := by
  obtain ⟨short, target, left, resolved, entered⟩ := visit_eq_ok_iff.mp visited
  simp only at short resolved entered
  rw [resolved] at here
  generalize otherResolved : others.resolve otherLinks other otherEntry = second at here
  -- In all cases but the last, nothing is collected here.
  cases here with
  | ignoredDirectory ignored =>
      rw [enter, if_pos ignored] at entered
      cases entered
      cases member
  | ignoredFile ignored =>
      obtain ⟨kept, _⟩ := mem_files_enter entered member
      cases ignored.symm.trans kept
  | unwanted unwanted =>
      obtain ⟨_, wanted, _⟩ := mem_files_enter entered member
      cases unwanted.symm.trans wanted
  | large large otherLarge =>
      obtain ⟨_, _, small, _⟩ := mem_files_enter entered member
      omega
  | file readable content =>
      obtain ⟨_, _, _, isPath⟩ := mem_files_enter entered member
      rw [isPath, reached.read_entry List.mem_cons_self short resolved,
        otherReached.read_entry List.mem_cons_self short otherResolved]

/-- What a walk collects has the same content in trees that differ in what it overlooks. -/
theorem read_of_alike (proper : files.Proper) (otherProper : others.Proper)
    (alike : Alike collector rules files others links otherLinks place other path relative
      entries otherEntries)
    (reached : files.Reached links place path entries)
    (otherReached : others.Reached otherLinks other path otherEntries)
    (walked : collector.walkEntries files rules links place path relative entries =
      .ok collection) :
    ∀ file ∈ collection.files, files.read file.path = others.read file.path := by
  -- On the relation of the trees: what is reached in both is passed down with the walk.
  induction alike generalizing collection with
  | nil =>
      rw [walkEntries_nil] at walked
      cases walked
      simp
  | item here further ih =>
      rw [walkEntries_cons] at walked
      obtain ⟨first, visited, walked⟩ := bind_eq_ok_iff.mp walked
      obtain ⟨rest, walkedOthers, whole⟩ := bind_eq_ok_iff.mp walked
      cases whole
      intro file member
      rcases List.mem_append.mp member with inFirst | inRest
      · exact read_of_looksAlike here reached otherReached visited inFirst
      · exact ih reached.tail otherReached.tail walkedOthers file inRest
  | directory resolved otherResolved readable inside further insideIh ih =>
      rw [walkEntries_cons] at walked
      obtain ⟨first, visited, walked⟩ := bind_eq_ok_iff.mp walked
      obtain ⟨rest, walkedOthers, whole⟩ := bind_eq_ok_iff.mp walked
      cases whole
      intro file member
      rcases List.mem_append.mp member with inFirst | inRest
      · obtain ⟨short, target, left, again, entered⟩ := visit_eq_ok_iff.mp visited
        cases resolved.symm.trans again
        have down := reached.down proper List.mem_cons_self short resolved
        have otherDown := otherReached.down otherProper List.mem_cons_self short otherResolved
        rw [enter] at entered
        split at entered
        · cases entered
          cases inFirst
        · split at entered
          · exact insideIh down otherDown entered file inFirst
          · cases entered
      · exact ih reached.tail otherReached.tail walkedOthers file inRest

theorem read_of_alikeFrom {root : String} (proper : files.Proper) (otherProper : others.Proper)
    (alike : AlikeFrom collector rules files others root)
    (collected : collector.collect files root rules = .ok collection) :
    ∀ file ∈ collection.files, files.read file.path = others.read file.path := by
  cases alike with
  | failure failure located otherLocated => simp [collect, located] at collected
  | file located otherLocated => simp [collect, located] at collected
  | directory located otherLocated readable entries =>
      simp only [collect, located] at collected
      split at collected
      · exact read_of_alike proper otherProper entries (.of_located proper located)
          (.of_located otherProper otherLocated) collected
      · cases collected

end Collector

end EnvAudit
