import EnvAudit.Proofs.Files.Order
import EnvAudit.Proofs.Walk.Success
import EnvAudit.Proofs.Walk.Selection

/-!
# Walks in different orders

Whether a walk succeeds does not depend on the orders of listings, and neither does
what it collects, except for the order of that.
-/

namespace EnvAudit

variable {files others : FileSystem} {rules : IgnoreRules} {links : Nat}
variable {place other : Place} {entries otherEntries : List (String × Entry)}

namespace Stops

variable {before : List String} {stop : Stop}

/-- A walk makes the same stops in whatever order the entries are listed. -/
theorem reordered (same : files.Reordered others) (proper : files.Proper)
    (placeProper : place.Proper) (entriesProper : ProperEntries entries)
    (places : place.Reordered other) (listings : Relisted entries otherEntries)
    (stops : Stops files rules links place before entries stop) :
    ∃ target, stop.target.Reordered target ∧
      Stops others rules links other before otherEntries ⟨stop.names, target, stop.ignored⟩ := by
  induction stops generalizing other otherEntries with
  | ignored member resolved covered =>
      obtain ⟨item, otherMember, sameName, ends⟩ :=
        same.resolve_mem proper placeProper places listings member
      obtain ⟨target, targets, otherResolved⟩ := ends.of_ok resolved
      rw [targets.isDirectory, ← sameName] at covered
      refine ⟨target, targets, ?_⟩
      rw [← sameName]
      exact .ignored otherMember otherResolved covered
  | file member resolved clear =>
      obtain ⟨item, otherMember, sameName, ends⟩ :=
        same.resolve_mem proper placeProper places listings member
      obtain ⟨target, targets, otherResolved⟩ := ends.of_ok resolved
      cases targets with
      | file =>
          refine ⟨_, .file _ _, ?_⟩
          rw [← sameName] at clear ⊢
          exact .file otherMember otherResolved clear
  | @down links place before entries item inner left stop member resolved clear further ih =>
      obtain ⟨otherItem, otherMember, sameName, ends⟩ :=
        same.resolve_mem proper placeProper places listings member
      obtain ⟨target, targets, otherResolved⟩ := ends.of_ok resolved
      have innerProper := proper.resolve placeProper (entriesProper.inner _ member) resolved
      cases targets with
      | directory inners =>
          obtain ⟨target, targets, otherStops⟩ :=
            ih innerProper innerProper.here inners inners.here.entries
          rw [← sameName] at clear otherStops
          exact ⟨target, targets, .down otherMember otherResolved clear otherStops⟩

end Stops

/-- A walk that can enter everything that it has to can do so in any order. -/
theorem Collector.Walkable.reordered (same : files.Reordered others) (proper : files.Proper)
    (placeProper : place.Proper) (entriesProper : ProperEntries entries)
    (places : place.Reordered other) (listings : Relisted entries otherEntries)
    {path relative : String}
    (walkable : Collector.Walkable files rules links place path relative entries) :
    Collector.Walkable others rules links other path relative otherEntries := by
  induction walkable generalizing other otherEntries with
  | @intro links place path relative entries short resolved listed below ih =>
      have otherProper := same.proper proper
      -- Each item of the other listing stands for one of this listing, where all is known.
      have pick (otherItem : String × Entry) (otherMember : otherItem ∈ otherEntries) :
          ∃ item ∈ entries, item.1 = otherItem.1 ∧
            FileSystem.SameEnd (others.resolve links other otherItem.2)
              (files.resolve links place item.2) :=
        same.symm.resolve_mem otherProper (placeProper.reordered places) places.symm
          listings.symm otherMember
      have enter (otherItem : String × Entry) (otherMember : otherItem ∈ otherEntries)
          (otherInner : Place) (left : Nat)
          (otherLeads : others.resolve links other otherItem.2 =
            .ok (.directory otherInner, left))
          (clear : rules.isIgnored (Collector.relativePath relative otherItem.1) true = false) :
          otherInner.here.readable = true ∧
            Collector.Walkable others rules left otherInner (Path.join path otherItem.1)
              (Collector.relativePath relative otherItem.1) otherInner.here.entries := by
        obtain ⟨item, member, sameName, ends⟩ := pick otherItem otherMember
        obtain ⟨target, targets, leads⟩ := ends.of_ok otherLeads
        cases targets with
        | @directory _ inner inners =>
            have innerProper := proper.resolve placeProper (entriesProper.inner _ member) leads
            rw [← sameName] at clear ⊢
            rw [inners.here.readable]
            exact ⟨listed item member inner left leads clear,
              ih item member inner left leads clear innerProper innerProper.here inners.symm
                inners.symm.here.entries⟩
      refine .intro ?_ ?_ ?_ ?_
      · intro otherItem otherMember
        obtain ⟨item, member, sameName, _⟩ := pick otherItem otherMember
        exact sameName ▸ short item member
      · intro otherItem otherMember
        obtain ⟨item, member, _, ends⟩ := pick otherItem otherMember
        obtain ⟨target, left, leads⟩ := resolved item member
        obtain ⟨otherTarget, _, otherLeads⟩ := ends.symm.of_ok leads
        exact ⟨otherTarget, left, otherLeads⟩
      · intro otherItem otherMember otherInner left otherLeads clear
        exact (enter otherItem otherMember otherInner left otherLeads clear).1
      · intro otherItem otherMember otherInner left otherLeads clear
        exact (enter otherItem otherMember otherInner left otherLeads clear).2

/-- The same collection, in another order. -/
structure Collection.Reordered (first second : Collection) : Prop where
  files : first.files.Perm second.files
  oversized : first.oversized.Perm second.oversized
  ignored : first.ignored = second.ignored

theorem Collection.gather_perm {parts otherParts : List Collection}
    (same : parts.Perm otherParts) :
    (Collection.gather parts).Reordered (Collection.gather otherParts) where
  files := by
    rw [files_gather, files_gather]
    exact same.flatMap_right _
  oversized := by
    rw [oversized_gather, oversized_gather]
    exact same.flatMap_right _
  ignored := by
    rw [ignored_gather, ignored_gather]
    exact (same.map Collection.ignored).sum_eq

/-- What a stop contributes depends on no listing. -/
theorem Stop.contribution_reordered (collector : Collector) (root : String) {stop : Stop}
    {target : Located} (targets : stop.target.Reordered target) :
    Stop.contribution collector root ⟨stop.names, target, stop.ignored⟩ =
      stop.contribution collector root := by
  obtain ⟨names, stopTarget, ignored⟩ := stop
  cases targets <;> rfl

namespace Collector

variable {collector : Collector} {root : String}

namespace IsLog

variable {stops otherStops : Stop → Prop} {collection otherCollection : Collection}
variable {log otherLog : List Stop}

/-- The contribution of a stop together with the names on the way to it. -/
def item (collector : Collector) (root : String) (stop : Stop) : List String × Collection :=
  (stop.names, stop.contribution collector root)

theorem items_nodup (isLog : IsLog collector root stops collection log) :
    (log.map (item collector root)).Nodup := by
  apply List.Nodup.of_map Prod.fst
  rw [List.map_map]
  exact isLog.distinct

theorem items_subset (isLog : IsLog collector root stops collection log)
    (isOther : IsLog collector root otherStops otherCollection otherLog)
    (same : ∀ stop, stops stop → ∃ target, stop.target.Reordered target ∧
      otherStops ⟨stop.names, target, stop.ignored⟩) :
    log.map (item collector root) ⊆ otherLog.map (item collector root) := by
  intro entry member
  obtain ⟨stop, inLog, rfl⟩ := List.mem_map.mp member
  obtain ⟨target, targets, otherStop⟩ := same stop ((isLog.complete stop).mp inLog)
  refine List.mem_map.mpr ⟨_, (isOther.complete _).mpr otherStop, ?_⟩
  rw [item, Stop.contribution_reordered collector root targets]
  rfl

/-- Walks with the same stops collect the same. -/
theorem reordered (isLog : IsLog collector root stops collection log)
    (isOther : IsLog collector root otherStops otherCollection otherLog)
    (same : ∀ stop, stops stop → ∃ target, stop.target.Reordered target ∧
      otherStops ⟨stop.names, target, stop.ignored⟩)
    (otherSame : ∀ stop, otherStops stop → ∃ target, stop.target.Reordered target ∧
      stops ⟨stop.names, target, stop.ignored⟩) :
    collection.Reordered otherCollection := by
  -- No log lists a stop twice, so the same stops make permuted logs.
  have items : (log.map (item collector root)).Perm (otherLog.map (item collector root)) :=
    (List.perm_ext_iff_of_nodup isLog.items_nodup isOther.items_nodup).mpr fun _ =>
      ⟨fun member => isLog.items_subset isOther same member,
        fun member => isOther.items_subset isLog otherSame member⟩
  have parts := items.map Prod.snd
  rw [List.map_map, List.map_map] at parts
  rw [isLog.gathers, isOther.gathers]
  exact Collection.gather_perm parts

end IsLog

/-- A walk from a root collects the same in whatever order the entries are listed. -/
theorem collect_reordered (same : files.Reordered others) (proper : files.Proper)
    {collection : Collection} (collected : collector.collect files root rules = .ok collection) :
    ∃ otherCollection, collector.collect others root rules = .ok otherCollection ∧
      collection.Reordered otherCollection := by
  obtain ⟨place, links, located, readable, walkable⟩ := collect_ok_iff.mp ⟨collection, collected⟩
  obtain ⟨target, targets, otherLocated⟩ := (same.locate proper root).of_ok located
  cases targets with
  | @directory _ other places =>
      have placeProper := proper.locate located
      have otherProper := same.proper proper
      have otherPlaceProper := placeProper.reordered places
      have otherWalkable := walkable.reordered same proper placeProper placeProper.here places
        places.here.entries
      obtain ⟨otherCollection, otherCollected⟩ :
          ∃ collection, collector.collect others root rules = .ok collection :=
        collect_ok_iff.mpr
          ⟨other, links, otherLocated, places.here.readable ▸ readable, otherWalkable⟩
      obtain ⟨log, isLog⟩ := collect_log proper located collected
      obtain ⟨otherLog, isOther⟩ := collect_log otherProper otherLocated otherCollected
      refine ⟨otherCollection, otherCollected, isLog.reordered isOther ?_ ?_⟩
      · intro stop stops
        exact stops.reordered same proper placeProper placeProper.here places places.here.entries
      · intro stop stops
        exact stops.reordered same.symm otherProper otherPlaceProper otherPlaceProper.here
          places.symm places.symm.here.entries

end Collector

end EnvAudit
