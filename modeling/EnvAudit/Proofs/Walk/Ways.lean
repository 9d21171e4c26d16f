import EnvAudit.Proofs.Walk.Stops

/-!
# Clear ways

The way to an entry is clear if the rules ignore no entry on it.  A walk stops
just at the ignored entries and the files that clear ways lead to.
-/

namespace EnvAudit

/-- The rules ignore no entry on the way that the names describe. -/
def Clear (files : FileSystem) (rules : IgnoreRules) (links : Nat) (place : Place)
    (before : List String) (entries : List (String × Entry)) (names : List String) : Prop :=
  ∀ way target left, way <+: names → files.Leads links place entries way target left →
    rules.isIgnored (Trail.relative (before ++ way)) target.isDirectory = false

namespace Clear

variable {files : FileSystem} {rules : IgnoreRules} {links left : Nat} {place inner : Place}
variable {before names : List String} {name : String} {entry : Entry}
variable {entries : List (String × Entry)} {target : Located}

theorem nil : Clear files rules links place before entries [] := by
  intro way target left starts leads
  exact absurd (List.prefix_nil.mp starts) leads.nonempty

/-- A way is clear if its last entry is not ignored and the way there is clear. -/
theorem iff_dropLast (proper : files.Proper) (placeProper : place.Proper)
    (entriesProper : ProperEntries entries)
    (leads : files.Leads links place entries names target left) :
    Clear files rules links place before entries names ↔
      Clear files rules links place before entries names.dropLast ∧
        rules.isIgnored (Trail.relative (before ++ names)) target.isDirectory = false := by
  have whole := List.dropLast_append_getLast leads.nonempty
  constructor
  · intro clear
    refine ⟨fun way other otherLeft starts => ?_, clear names target left List.prefix_rfl leads⟩
    exact clear way other otherLeft (starts.trans (List.dropLast_prefix names))
  · rintro ⟨clear, last⟩ way other otherLeft starts otherLeads
    rw [← whole, List.prefix_concat_iff] at starts
    rcases starts with rfl | starts
    · rw [whole] at otherLeads ⊢
      obtain ⟨rfl, rfl⟩ := leads.unique proper placeProper entriesProper otherLeads
      exact last
    · exact clear way other otherLeft starts otherLeads

/-- A way through a directory is clear if the directory is not ignored and the way
within it is clear. -/
theorem cons (entriesProper : ProperEntries entries) (member : (name, entry) ∈ entries)
    (resolved : files.resolve links place entry = .ok (.directory inner, left))
    (clear : rules.isIgnored (Trail.relative (before ++ [name])) true = false)
    (within : Clear files rules left inner (before ++ [name]) inner.here.entries names) :
    Clear files rules links place before entries (name :: names) := by
  intro way target middle starts leads
  rcases List.prefix_cons_iff.mp starts with rfl | ⟨further, rfl, furtherStarts⟩
  · exact absurd rfl leads.nonempty
  · cases leads with
    | last otherMember otherResolved =>
        rw [entriesProper.unique otherMember member] at otherResolved
        cases resolved.symm.trans otherResolved
        exact clear
    | down otherMember otherResolved below =>
        rw [entriesProper.unique otherMember member] at otherResolved
        cases resolved.symm.trans otherResolved
        simpa using within further target middle furtherStarts below

/-- A clear way through a directory is clear within it. -/
theorem within (member : (name, entry) ∈ entries)
    (resolved : files.resolve links place entry = .ok (.directory inner, left))
    (clear : Clear files rules links place before entries (name :: names)) :
    Clear files rules left inner (before ++ [name]) inner.here.entries names := by
  intro way target middle starts leads
  have whole := clear (name :: way) target middle (List.prefix_cons_inj _ |>.mpr starts)
    (.down member resolved leads)
  simpa using whole

end Clear

namespace Stops

variable {files : FileSystem} {rules : IgnoreRules} {links left : Nat} {place : Place}
variable {before names : List String} {entries : List (String × Entry)} {target : Located}
variable {stop : Stop}

/-- The way to a stop is clear up to the stop itself. -/
theorem leads (proper : files.Proper) (placeProper : place.Proper)
    (entriesProper : ProperEntries entries)
    (stops : Stops files rules links place before entries stop) :
    ∃ names left, stop.names = before ++ names ∧
      files.Leads links place entries names stop.target left ∧
      Clear files rules links place before entries names.dropLast ∧
      rules.isIgnored (Trail.relative stop.names) stop.target.isDirectory = stop.ignored ∧
      (stop.ignored = false → stop.target.isDirectory = false) := by
  induction stops with
  | ignored member resolved covered =>
      exact ⟨[_], _, rfl, .last member resolved, .nil, covered, by simp⟩
  | file member resolved clear =>
      exact ⟨[_], _, rfl, .last member resolved, .nil, clear, fun _ => rfl⟩
  | down member resolved clear further ih =>
      have innerProper := proper.resolve placeProper (entriesProper.inner _ member) resolved
      obtain ⟨names, left, whole, leads, clearWay, decided, isFile⟩ :=
        ih innerProper innerProper.here
      refine ⟨_ :: names, left, by simpa using whole, .down member resolved leads, ?_, decided,
        isFile⟩
      rw [List.dropLast_cons_of_ne_nil leads.nonempty]
      exact clearWay.cons entriesProper member resolved clear

/-- Behind a clear way there is a stop at each ignored entry and at each file. -/
theorem of_leads (leads : files.Leads links place entries names target left)
    (clear : Clear files rules links place before entries names.dropLast) {ignored : Bool}
    (decided : rules.isIgnored (Trail.relative (before ++ names)) target.isDirectory = ignored)
    (isFile : ignored = false → target.isDirectory = false) :
    Stops files rules links place before entries ⟨before ++ names, target, ignored⟩ := by
  induction leads generalizing before with
  | @last links place entries name entry target left member resolved =>
      cases ignored with
      | true => exact .ignored member resolved decided
      | false =>
          cases target with
          | file readable content =>
              rw [Located.isDirectory] at decided
              exact .file member resolved decided
          | directory inner => cases isFile rfl
  | @down links place entries name entry inner middle names target left member resolved below ih =>
      rw [List.dropLast_cons_of_ne_nil below.nonempty] at clear
      have directoryClear := clear [name] (.directory inner) middle
        (List.prefix_cons_inj _ |>.mpr List.nil_prefix) (.last member resolved)
      have further := ih (clear.within member resolved) (by simpa using decided) isFile
      rw [List.append_assoc] at further
      exact .down member resolved directoryClear further

/-- The stops of a walk from a root are the ignored entries and the files behind
clear ways. -/
theorem iff_leads (proper : files.Proper) (placeProper : place.Proper) :
    Stops files rules links place [] place.here.entries stop ↔
      (∃ left, files.Leads links place place.here.entries stop.names stop.target left) ∧
        Clear files rules links place [] place.here.entries stop.names.dropLast ∧
        rules.isIgnored (Trail.relative stop.names) stop.target.isDirectory = stop.ignored ∧
        (stop.ignored = false → stop.target.isDirectory = false) := by
  constructor
  · intro stops
    obtain ⟨names, left, whole, leads, clear, decided, isFile⟩ :=
      stops.leads proper placeProper placeProper.here
    rw [List.nil_append] at whole
    subst whole
    exact ⟨⟨left, leads⟩, clear, decided, isFile⟩
  · rintro ⟨⟨left, leads⟩, clear, decided, isFile⟩
    exact of_leads leads clear decided isFile

end Stops

namespace Collector

variable {collector : Collector} {files : FileSystem} {rules : IgnoreRules} {links : Nat}
variable {place : Place}

/-- A walk from the directory that a root leads to collects what its stops contribute. -/
theorem collect_log {root : String} {collection : Collection} (proper : files.Proper)
    (located : files.locate root = .ok (.directory place, links))
    (collected : collector.collect files root rules = .ok collection) :
    ∃ log, IsLog collector root (Stops files rules links place [] place.here.entries)
      collection log := by
  have placeProper := proper.locate located
  simp only [collect, located] at collected
  split at collected
  · exact walkEntries_log proper root placeProper placeProper.here (by simp) collected
  · contradiction

end Collector

end EnvAudit
