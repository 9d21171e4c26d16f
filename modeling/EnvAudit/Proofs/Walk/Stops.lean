import EnvAudit.Proofs.Walk.Visit
import Mathlib.Data.List.Infix

/-!
# Stops of a walk

A walk goes down from directory to directory and stops at ignored entries and at
files.  What it collects is made up of what its stops contribute, in order, and
it stops at each of them once.
-/

namespace EnvAudit

/-- An entry where a walk goes no further: an ignored one, or a file. -/
structure Stop where
  /-- The names on the way from the root to the entry. -/
  names : List String
  target : Located
  ignored : Bool

namespace Stop

/-- What a stop contributes to a collection. -/
def contribution (collector : Collector) (root : String) (stop : Stop) : Collection :=
  if stop.ignored then
    { ignored := 1 }
  else
    match stop.target with
    | .file _ content => collector.collectFile (Trail.path root stop.names) content.size
    | .directory _ => {}

end Stop

/-- A walk over entries of the directory at a place, to which the names in `before`
have led, makes the stop. -/
inductive Stops (files : FileSystem) (rules : IgnoreRules) :
    (links : Nat) → Place → (before : List String) → List (String × Entry) → Stop → Prop
  | ignored {links : Nat} {place : Place} {before : List String}
      {entries : List (String × Entry)} {item : String × Entry} {target : Located} {left : Nat}
      (member : item ∈ entries)
      (resolved : files.resolve links place item.2 = .ok (target, left))
      (covered : rules.isIgnored (Trail.relative (before ++ [item.1])) target.isDirectory = true) :
      Stops files rules links place before entries ⟨before ++ [item.1], target, true⟩
  | file {links : Nat} {place : Place} {before : List String}
      {entries : List (String × Entry)} {item : String × Entry} {readable : Bool}
      {content : ByteArray} {left : Nat} (member : item ∈ entries)
      (resolved : files.resolve links place item.2 = .ok (.file readable content, left))
      (clear : rules.isIgnored (Trail.relative (before ++ [item.1])) false = false) :
      Stops files rules links place before entries
        ⟨before ++ [item.1], .file readable content, false⟩
  | down {links : Nat} {place : Place} {before : List String}
      {entries : List (String × Entry)} {item : String × Entry} {inner : Place} {left : Nat}
      {stop : Stop} (member : item ∈ entries)
      (resolved : files.resolve links place item.2 = .ok (.directory inner, left))
      (clear : rules.isIgnored (Trail.relative (before ++ [item.1])) true = false)
      (further : Stops files rules left inner (before ++ [item.1]) inner.here.entries stop) :
      Stops files rules links place before entries stop

namespace Stops

variable {collector : Collector} {files : FileSystem} {rules : IgnoreRules} {root : String}
variable {links left : Nat} {place inner : Place} {before : List String}
variable {item : String × Entry} {entries others : List (String × Entry)} {target : Located}
variable {stop : Stop}

/-- The stops of a walk over entries are those at or below one of them. -/
theorem iff_exists_item :
    Stops files rules links place before entries stop ↔
      ∃ item ∈ entries, Stops files rules links place before [item] stop := by
  constructor
  · intro stops
    cases stops with
    | ignored member resolved covered =>
        exact ⟨_, member, ignored (List.mem_singleton_self _) resolved covered⟩
    | file member resolved clear =>
        exact ⟨_, member, file (List.mem_singleton_self _) resolved clear⟩
    | down member resolved clear further =>
        exact ⟨_, member, down (List.mem_singleton_self _) resolved clear further⟩
  · rintro ⟨item, inEntries, stops⟩
    cases stops with
    | ignored member resolved covered =>
        obtain rfl := List.mem_singleton.mp member
        exact ignored inEntries resolved covered
    | file member resolved clear =>
        obtain rfl := List.mem_singleton.mp member
        exact file inEntries resolved clear
    | down member resolved clear further =>
        obtain rfl := List.mem_singleton.mp member
        exact down inEntries resolved clear further

theorem cons_iff :
    Stops files rules links place before (item :: others) stop ↔
      Stops files rules links place before [item] stop ∨
        Stops files rules links place before others stop := by
  constructor
  · intro stops
    obtain ⟨other, inEntries, atOther⟩ := iff_exists_item.mp stops
    rcases List.mem_cons.mp inEntries with rfl | inOthers
    · exact .inl atOther
    · exact .inr (iff_exists_item.mpr ⟨other, inOthers, atOther⟩)
  · rintro (stops | stops)
    · exact iff_exists_item.mpr ⟨item, List.mem_cons_self, stops⟩
    · obtain ⟨other, inOthers, atOther⟩ := iff_exists_item.mp stops
      exact iff_exists_item.mpr ⟨other, List.mem_cons_of_mem _ inOthers, atOther⟩

/-- An ignored entry is the only stop at or below it. -/
theorem covered_iff (resolved : files.resolve links place item.2 = .ok (target, left))
    (covered : rules.isIgnored (Trail.relative (before ++ [item.1])) target.isDirectory = true) :
    Stops files rules links place before [item] stop ↔
      stop = ⟨before ++ [item.1], target, true⟩ := by
  constructor
  · intro stops
    cases stops with
    | ignored member again _ =>
        obtain rfl := List.mem_singleton.mp member
        cases resolved.symm.trans again
        rfl
    | file member again clear =>
        obtain rfl := List.mem_singleton.mp member
        cases resolved.symm.trans again
        cases covered.symm.trans clear
    | down member again clear further =>
        obtain rfl := List.mem_singleton.mp member
        cases resolved.symm.trans again
        cases covered.symm.trans clear
  · rintro rfl
    exact ignored (List.mem_singleton_self _) resolved covered

/-- A file that is not ignored is the only stop there. -/
theorem file_iff {readable : Bool} {content : ByteArray}
    (resolved : files.resolve links place item.2 = .ok (.file readable content, left))
    (clear : rules.isIgnored (Trail.relative (before ++ [item.1])) false = false) :
    Stops files rules links place before [item] stop ↔
      stop = ⟨before ++ [item.1], .file readable content, false⟩ := by
  constructor
  · intro stops
    cases stops with
    | ignored member again covered =>
        obtain rfl := List.mem_singleton.mp member
        cases resolved.symm.trans again
        cases covered.symm.trans clear
    | file member again _ =>
        obtain rfl := List.mem_singleton.mp member
        cases resolved.symm.trans again
        rfl
    | down member again _ further =>
        obtain rfl := List.mem_singleton.mp member
        cases resolved.symm.trans again
  · rintro rfl
    exact file (List.mem_singleton_self _) resolved clear

/-- The stops at or below a directory that is not ignored are those within it. -/
theorem directory_iff
    (resolved : files.resolve links place item.2 = .ok (.directory inner, left))
    (clear : rules.isIgnored (Trail.relative (before ++ [item.1])) true = false) :
    Stops files rules links place before [item] stop ↔
      Stops files rules left inner (before ++ [item.1]) inner.here.entries stop := by
  constructor
  · intro stops
    cases stops with
    | ignored member again covered =>
        obtain rfl := List.mem_singleton.mp member
        cases resolved.symm.trans again
        cases covered.symm.trans clear
    | file member again _ =>
        obtain rfl := List.mem_singleton.mp member
        cases resolved.symm.trans again
    | down member again _ further =>
        obtain rfl := List.mem_singleton.mp member
        cases resolved.symm.trans again
        exact further
  · exact down (List.mem_singleton_self _) resolved clear

/-- The way to a stop leads through one of the entries. -/
theorem starts (stops : Stops files rules links place before entries stop) :
    ∃ item ∈ entries, before ++ [item.1] <+: stop.names := by
  induction stops with
  | ignored member resolved covered => exact ⟨_, member, List.prefix_rfl⟩
  | file member resolved clear => exact ⟨_, member, List.prefix_rfl⟩
  | down member resolved clear further ih =>
      obtain ⟨inner, innerMember, starts⟩ := ih
      exact ⟨_, member, (List.prefix_append _ _).trans starts⟩

/-- Stops at or below entries with different names are different. -/
theorem names_ne {other : Stop} (stops : Stops files rules links place before [item] stop)
    (otherStops : Stops files rules links place before others other)
    (fresh : item.1 ∉ others.map Prod.fst) : stop.names ≠ other.names := by
  intro same
  -- Both ways begin with `before`, and the next name tells them apart.
  obtain ⟨first, member, firstStarts⟩ := stops.starts
  obtain rfl := List.mem_singleton.mp member
  obtain ⟨second, secondIn, secondStarts⟩ := otherStops.starts
  obtain ⟨firstRest, firstWhole⟩ := firstStarts
  obtain ⟨secondRest, secondWhole⟩ := secondStarts
  have sameName : first.1 = second.1 := by
    rw [same, ← secondWhole] at firstWhole
    simpa using And.left (by simpa using firstWhole)
  exact fresh (sameName ▸ List.mem_map_of_mem secondIn)

end Stops

namespace Collector

variable {collector : Collector} {files : FileSystem} {rules : IgnoreRules} {root : String}
variable {links left : Nat} {place : Place} {before : List String}

theorem relativePath_relative (beforeNames : ∀ name ∈ before, IsName name) (name : String) :
    relativePath (Trail.relative before) name = Trail.relative (before ++ [name]) := by
  by_cases first : before = []
  · subst first
    simp [relativePath, Trail.relative]
  · rw [relativePath, if_neg (IsName.relative_ne_empty beforeNames first),
      Trail.relative_concat first]

/-- The stops of a walk in order: all of them, each once, and what they contribute. -/
structure IsLog (collector : Collector) (root : String) (stops : Stop → Prop)
    (collection : Collection) (log : List Stop) : Prop where
  gathers : collection = .gather (log.map (Stop.contribution collector root))
  distinct : (log.map Stop.names).Nodup
  complete : ∀ stop, stop ∈ log ↔ stops stop

theorem IsLog.singleton {stops : Stop → Prop} {stop : Stop}
    (only : ∀ other, stops other ↔ other = stop) :
    IsLog collector root stops (stop.contribution collector root) [stop] where
  gathers := by simp
  distinct := by simp
  complete other := by simp [only]

/-- What an entry adds to a collection comes from the stops at or below it. -/
theorem enter_log {item : String × Entry} {target : Located} {part : Collection}
    (resolved : files.resolve links place item.2 = .ok (target, left))
    (entered : collector.enter files rules (Trail.path root (before ++ [item.1]))
      (Trail.relative (before ++ [item.1])) target left = .ok part)
    (inside : ∀ inner, target = .directory inner →
      collector.walkEntries files rules left inner (Trail.path root (before ++ [item.1]))
        (Trail.relative (before ++ [item.1])) inner.here.entries = .ok part →
      ∃ log, IsLog collector root
        (Stops files rules left inner (before ++ [item.1]) inner.here.entries) part log) :
    ∃ log, IsLog collector root (Stops files rules links place before [item]) part log := by
  cases target with
  | file readable content =>
      rw [enter] at entered
      split at entered
      · rename_i covered
        cases entered
        exact ⟨_, .singleton fun _ => Stops.covered_iff resolved covered⟩
      · rename_i clear
        cases entered
        exact ⟨_, .singleton fun _ => Stops.file_iff resolved (Bool.not_eq_true _ ▸ clear)⟩
  | directory inner =>
      rw [enter] at entered
      split at entered
      · rename_i covered
        cases entered
        exact ⟨_, .singleton fun _ => Stops.covered_iff resolved covered⟩
      · rename_i clear
        split at entered
        · obtain ⟨log, isLog⟩ := inside inner rfl entered
          refine ⟨log, isLog.gathers, isLog.distinct, fun stop => ?_⟩
          rw [isLog.complete, Stops.directory_iff resolved (Bool.not_eq_true _ ▸ clear)]
        · contradiction

/-- What a walk collects is what its stops contribute. -/
theorem walkEntries_log (proper : files.Proper) (root : String) {entries : List (String × Entry)}
    (placeProper : place.Proper) (entriesProper : ProperEntries entries)
    (beforeNames : ∀ name ∈ before, IsName name) {collection : Collection}
    (walked : collector.walkEntries files rules links place (Trail.path root before)
      (Trail.relative before) entries = .ok collection) :
    ∃ log, IsLog collector root (Stops files rules links place before entries) collection log := by
  induction links, place, entries using FileSystem.descent_induction files
    generalizing before collection with
  | nil links place =>
      rw [walkEntries_nil] at walked
      cases walked
      refine ⟨[], rfl, by simp, fun stop => ?_⟩
      rw [Stops.iff_exists_item]
      simp
  | cons links place name entry others inside ih =>
      rw [walkEntries_cons] at walked
      obtain ⟨first, visited, walked⟩ := bind_eq_ok_iff.mp walked
      obtain ⟨rest, walkedOthers, whole⟩ := bind_eq_ok_iff.mp walked
      cases whole
      have firstLog : ∃ log, IsLog collector root
          (Stops files rules links place before [(name, entry)]) first log := by
        obtain ⟨_, target, left, resolved, entered⟩ := visit_eq_ok_iff.mp visited
        rw [relativePath_relative beforeNames, ← Trail.path_concat] at entered
        apply enter_log resolved entered
        rintro inner rfl walkedInner
        have innerProper := proper.resolve placeProper
          (entriesProper.inner _ List.mem_cons_self) resolved
        have innerNames : ∀ other ∈ before ++ [name], IsName other := by
          have isName := entriesProper.named _ List.mem_cons_self
          intro other member
          rcases List.mem_append.mp member with old | new
          · exact beforeNames other old
          · exact List.mem_singleton.mp new ▸ isName
        exact inside inner left resolved innerProper innerProper.here innerNames walkedInner
      obtain ⟨firstStops, isFirst⟩ := firstLog
      obtain ⟨otherStops, isOther⟩ := ih placeProper entriesProper.tail beforeNames walkedOthers
      refine ⟨firstStops ++ otherStops, ?_, ?_, fun stop => ?_⟩
      · rw [List.map_append, Collection.gather_append, ← isFirst.gathers, ← isOther.gathers]
      · rw [List.map_append]
        refine List.Nodup.append isFirst.distinct isOther.distinct ?_
        intro names inFirst inOther
        obtain ⟨stop, stopIn, rfl⟩ := List.mem_map.mp inFirst
        obtain ⟨otherStop, otherIn, same⟩ := List.mem_map.mp inOther
        exact Stops.names_ne ((isFirst.complete _).mp stopIn) ((isOther.complete _).mp otherIn)
          (List.nodup_cons.mp entriesProper.distinct).1 same.symm
      · rw [List.mem_append, isFirst.complete, isOther.complete]
        exact Stops.cons_iff.symm

end Collector

end EnvAudit
