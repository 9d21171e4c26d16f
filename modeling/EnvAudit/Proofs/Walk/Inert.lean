import EnvAudit.Proofs.Files.Gap
import EnvAudit.Proofs.Files.Reached
import EnvAudit.Proofs.Walk.Stops
import Mathlib.Data.Set.Card

/-!
# Entries that a walk leaves out

An entry that the rules ignore, whatever it is, leaves one mark each time a walk comes to its
directory: the count of what was left out.  It leaves no other mark, as long as the walk can find
out what the entry is, and otherwise the walk ends there.  To tell this, a walk over a tree is
compared with one over the tree without the entry.
-/

namespace EnvAudit

/-- A walk goes down from a directory to another.  Directories are told by the trail of names that
the walk has come along, and by the way of names to where they stand. -/
inductive Descends (files : FileSystem) (rules : IgnoreRules) :
    List String × List String → List String × List String → Prop
  | intro {trail way next : List String} {place : Place} {name : String} {entry : Entry}
      (stands : files.Stands way place) (known : place.here.entries.lookup name = some entry)
      (leads : files.Reaches (way, [name]) (next, []))
      (clear : rules.isIgnored (Trail.relative (trail ++ [name])) true = false) :
      Descends files rules (trail, way) (trail ++ [name], next)

theorem Descends.iff {files : FileSystem} {rules : IgnoreRules} {trail way next : List String}
    {name : String} : Descends files rules (trail, way) (trail ++ [name], next) ↔
      (∃ place entry, files.Stands way place ∧ place.here.entries.lookup name = some entry) ∧
        files.Reaches (way, [name]) (next, []) ∧
        rules.isIgnored (Trail.relative (trail ++ [name])) true = false := by
  constructor
  · intro descends
    generalize longer : trail ++ [name] = further at descends
    cases descends with
    | intro stands known leads clear =>
        obtain rfl : name = _ := by simpa using longer
        exact ⟨⟨_, _, stands, known⟩, leads, clear⟩
  · rintro ⟨⟨place, entry, stands, known⟩, leads, clear⟩
    exact .intro stands known leads clear

/-- A walk from a root comes along the trail to the directory that stands at the way, however many
links there are. -/
def Walked (files : FileSystem) (rules : IgnoreRules) (root : String) (trail way : List String) :
    Prop :=
  ∃ start, files.Reaches ([], Path.parts (Path.join files.workingDirectory root)) (start, []) ∧
    Relation.ReflTransGen (Descends files rules) ([], start) (trail, way)

/-- A directory has an entry under the name, which is ignored whatever it is and wherever a walk
comes to it.  Nothing that the walk looks at leads through the entry. -/
structure Shunned (files : FileSystem) (rules : IgnoreRules) (root : String) (dir : List String)
    (name : String) : Prop where
  proper : files.Proper
  present : ∃ place entry, files.Stands dir place ∧ place.here.entries.lookup name = some entry
  covered : ∀ trail isDirectory, Walked (files.without (dir ++ [name])) rules root trail dir →
    rules.isIgnored (Trail.relative (trail ++ [name])) isDirectory = true
  rootAvoids : (files.without (dir ++ [name])).Avoids (dir ++ [name])
    ([], Path.parts (Path.join files.workingDirectory root))
  entriesAvoid : ∀ trail way place other entry,
    Walked (files.without (dir ++ [name])) rules root trail way →
    (files.without (dir ++ [name])).Stands way place →
    place.here.entries.lookup other = some entry →
    (files.without (dir ++ [name])).Avoids (dir ++ [name]) (way, [other])

/-- It can be found out what the entry under the name is, wherever a walk comes to it. -/
def Legible (files : FileSystem) (rules : IgnoreRules) (root : String) (dir : List String)
    (name : String) : Prop :=
  ∀ trail, Walked (files.without (dir ++ [name])) rules root trail dir →
    ∃ found, files.locate (Trail.path root (trail ++ [name])) = .ok found

theorem Place.Proper.lookup_pruned_of_mem {spot way : List String} {place : Place}
    {item : String × Entry} (proper : place.Proper) (kept : way ++ [item.1] ≠ spot)
    (member : item ∈ place.here.entries) :
    (place.pruned spot way).here.entries.lookup item.1 =
      some (item.2.pruned spot (way ++ [item.1])) := by
  rw [Place.lookup_pruned proper kept, proper.here.lookup_eq_some_iff.mpr member]
  rfl

namespace Collection

theorem empty_append (collection : Collection) : {} ++ collection = collection := by
  ext1 <;> simp

theorem append_nothing (result : Except ScanError Collection) :
    (do
      let part ← (.ok {} : Except ScanError Collection)
      let rest ← result
      return part ++ rest) = result := by
  cases result with
  | error error => rfl
  | ok collection => exact congrArg Except.ok (empty_append collection)

/-- The collection with more entries left out. -/
def leaveOut (collection : Collection) (number : Nat) : Collection :=
  { collection with ignored := collection.ignored + number }

theorem leaveOut_zero (collection : Collection) : collection.leaveOut 0 = collection :=
  rfl

theorem leaveOut_append (first second : Collection) (number more : Nat) :
    first.leaveOut number ++ second.leaveOut more = (first ++ second).leaveOut (number + more) := by
  ext1 <;> simp [leaveOut, Nat.add_add_add_comm]

end Collection

namespace Collector

/-- What a walk gives in a tree, and in the tree without an entry, when it comes to the directory of
the entry along the given trails. -/
inductive Compared (files : FileSystem) (root name : String) (trails : Set (List String)) :
    Except ScanError Collection → Except ScanError Collection → Prop
  | error (error : ScanError) : Compared files root name trails (.error error) (.error error)
  | ok (collection : Collection) (finite : trails.Finite)
      (legible : ∀ trail ∈ trails,
        (Trail.path root (trail ++ [name])).toList.contains '\x00' = false →
        ∃ found, files.locate (Trail.path root (trail ++ [name])) = .ok found) :
      Compared files root name trails (.ok (collection.leaveOut trails.ncard)) (.ok collection)
  | illegible {trail : List String} (member : trail ∈ trails)
      (illegible : ¬ ∃ found, files.locate (Trail.path root (trail ++ [name])) = .ok found)
      (error : ScanError) (second : Except ScanError Collection) :
      Compared files root name trails (.error error) second

namespace Compared

variable {files : FileSystem} {root name : String} {trails others : Set (List String)}
variable {first second further otherFurther : Except ScanError Collection}

/-- Where a walk does not come to the directory of the entry, it gives the same. -/
theorem same (none : trails = ∅) (result : Except ScanError Collection) :
    Compared files root name trails result result := by
  subst none
  cases result with
  | error error => exact .error error
  | ok collection =>
      have compared : Compared files root name ∅ (.ok (collection.leaveOut (Set.ncard ∅)))
          (.ok collection) :=
        .ok collection Set.finite_empty (by simp)
      rwa [Set.ncard_empty, Collection.leaveOut_zero] at compared

theorem append (apart : ∀ trail ∈ trails, trail ∉ others)
    (compared : Compared files root name trails first second)
    (furtherCompared : Compared files root name others further otherFurther) :
    Compared files root name (trails ∪ others)
      (do
        let part ← first
        let rest ← further
        return part ++ rest)
      (do
        let part ← second
        let rest ← otherFurther
        return part ++ rest) := by
  cases compared with
  | error error => exact .error error
  | illegible member illegible error second => exact .illegible (.inl member) illegible error _
  | ok collection finite legible =>
      cases furtherCompared with
      | error error => exact .error error
      | illegible member illegible error second => exact .illegible (.inr member) illegible error _
      | ok rest restFinite restLegible =>
          have compared : Compared files root name (trails ∪ others)
              (.ok ((collection ++ rest).leaveOut (trails ∪ others).ncard))
              (.ok (collection ++ rest)) := by
            refine .ok _ (finite.union restFinite) fun trail member => ?_
            exact member.elim (legible trail) (restLegible trail)
          rw [Set.ncard_union_eq (Set.disjoint_left.mpr apart) finite restFinite,
            ← Collection.leaveOut_append] at compared
          exact compared

end Compared

/-- The trails along which a walk comes to a directory by way of an entry, where it also comes to
the spot. -/
def trailsThrough (files : FileSystem) (rules : IgnoreRules) (dir : List String) (name : String)
    (trail way : List String) (other : String) : Set (List String) :=
  {arrival | (way ++ [other] = dir ++ [name] ∧ arrival = trail) ∨
    ∃ next, Descends files rules (trail, way) (trail ++ [other], next) ∧
      Relation.ReflTransGen (Descends files rules) (trail ++ [other], next) (arrival, dir)}

/-- The trails along which a walk comes to a directory by way of some entries. -/
def trailsAmong (files : FileSystem) (rules : IgnoreRules) (dir : List String) (name : String)
    (trail way : List String) (entries : List (String × Entry)) : Set (List String) :=
  {arrival | ∃ item ∈ entries, arrival ∈ trailsThrough files rules dir name trail way item.1}

variable {collector : Collector} {files : FileSystem} {rules : IgnoreRules} {root name : String}
variable {dir trail way : List String} {links : Nat} {place : Place}
variable {item : String × Entry} {entries others : List (String × Entry)}

theorem trailsAmong_cons : trailsAmong files rules dir name trail way (item :: others) =
    trailsThrough files rules dir name trail way item.1 ∪
      trailsAmong files rules dir name trail way others := by
  ext arrival
  simp [trailsAmong]

/-- A walk only goes further along a trail. -/
theorem prefix_of_descends {first second : List String × List String}
    (descends : Relation.ReflTransGen (Descends files rules) first second) :
    first.1 <+: second.1 := by
  induction descends with
  | refl => exact List.prefix_rfl
  | tail _ step ih =>
      cases step with
      | intro stands known leads clear => exact ih.trans (List.prefix_append _ _)

/-- A trail by way of an entry is that of its directory, at the spot, or goes on with its name. -/
theorem of_mem_trailsThrough {other : String} {arrival : List String}
    (member : arrival ∈ trailsThrough files rules dir name trail way other) :
    way ++ [other] = dir ++ [name] ∧ arrival = trail ∨ trail ++ [other] <+: arrival := by
  rcases member with here | ⟨next, _, further⟩
  · exact .inl here
  · exact .inr (prefix_of_descends further)

theorem trailsThrough_eq_empty {other : String} (elsewhere : way ++ [other] ≠ dir ++ [name])
    (nowhere : ∀ next, ¬ Descends files rules (trail, way) (trail ++ [other], next)) :
    trailsThrough files rules dir name trail way other = ∅ := by
  rw [Set.eq_empty_iff_forall_notMem]
  rintro arrival (⟨atSpot, _⟩ | ⟨next, descends, _⟩)
  · exact elsewhere atSpot
  · exact nowhere next descends

theorem trailsThrough_of_descends {other : String} {next : List String}
    (elsewhere : way ++ [other] ≠ dir ++ [name])
    (descends : Descends files rules (trail, way) (trail ++ [other], next)) :
    trailsThrough files rules dir name trail way other =
      {arrival | Relation.ReflTransGen (Descends files rules) (trail ++ [other], next)
        (arrival, dir)} := by
  ext arrival
  constructor
  · rintro (⟨atSpot, _⟩ | ⟨middle, again, further⟩)
    · exact absurd atSpot elsewhere
    · have same := (Descends.iff.mp again).2.1.end_unique (Descends.iff.mp descends).2.1
      exact same ▸ further
  · exact fun further => .inr ⟨next, descends, further⟩

/-- A trail leads by way of one entry only. -/
theorem trails_apart (fresh : item.1 ∉ others.map Prod.fst) :
    ∀ arrival ∈ trailsThrough files rules dir name trail way item.1,
      arrival ∉ trailsAmong files rules dir name trail way others := by
  rintro arrival first ⟨other, inOthers, second⟩
  have different : item.1 ≠ other.1 :=
    fun same => fresh (List.mem_map.mpr ⟨other, inOthers, same.symm⟩)
  have longer (last : String) : ¬ trail ++ [last] <+: trail := by
    intro starts
    simpa using starts.length_le
  rcases of_mem_trailsThrough first with ⟨atSpot, rfl⟩ | starts
  · rcases of_mem_trailsThrough second with ⟨otherAtSpot, _⟩ | otherStarts
    · exact different (by simpa using atSpot.trans otherAtSpot.symm)
    · exact longer _ otherStarts
  · rcases of_mem_trailsThrough second with ⟨_, rfl⟩ | otherStarts
    · exact longer _ starts
    · have same := List.prefix_of_prefix_length_le starts otherStarts (by simp)
      exact different (by simpa using same)

section Shunned

variable (shunned : Shunned files rules root dir name)

include shunned

/-- An entry off the spot leads to the same with the entry there and without it. -/
theorem resolve_without (links : Nat)
    (walked : Walked (files.without (dir ++ [name])) rules root trail way)
    (stands : files.Stands way place) (outside : ¬ dir ++ [name] <+: way)
    (member : item ∈ place.here.entries) (elsewhere : way ++ [item.1] ≠ dir ++ [name]) :
    FileSystem.EndsAlike files (dir ++ [name]) (way, [item.1]) (files.resolve links place item.2)
      ((files.without (dir ++ [name])).resolve links (place.pruned (dir ++ [name]) way)
        (item.2.pruned (dir ++ [name]) (way ++ [item.1]))) := by
  have placeProper := stands.proper shunned.proper
  have isName := placeProper.here.named item member
  have known := placeProper.here.lookup_eq_some_iff.mpr member
  have stays := placeProper.lookup_pruned_of_mem elsewhere member
  rw [← FileSystem.follow_name isName known, ← FileSystem.follow_name isName stays]
  exact FileSystem.follow_without shunned.proper stands outside
    (shunned.entriesAvoid trail way _ _ _ walked (stands.without shunned.proper outside) stays)

/-- Off the spot, visits compare as the walks over the directories do that they lead to. -/
theorem visit_compared (walked : Walked (files.without (dir ++ [name])) rules root trail way)
    (stands : files.Stands way place) (outside : ¬ dir ++ [name] <+: way)
    (trailNames : ∀ part ∈ trail, IsName part) (member : item ∈ place.here.entries)
    (elsewhere : way ++ [item.1] ≠ dir ++ [name])
    (inside : ∀ inner left next,
      (Path.join (Trail.path root trail) item.1).utf8ByteSize ≤ FileSystem.pathLimit →
      files.resolve links place item.2 = .ok (.directory inner, left) →
      files.Stands next inner → ¬ dir ++ [name] <+: next →
      Descends (files.without (dir ++ [name])) rules (trail, way) (trail ++ [item.1], next) →
      Compared files root name
        {arrival | Relation.ReflTransGen (Descends (files.without (dir ++ [name])) rules)
          (trail ++ [item.1], next) (arrival, dir)}
        (collector.walkEntries files rules left inner (Trail.path root (trail ++ [item.1]))
          (Trail.relative (trail ++ [item.1])) inner.here.entries)
        (collector.walkEntries (files.without (dir ++ [name])) rules left
          (inner.pruned (dir ++ [name]) next) (Trail.path root (trail ++ [item.1]))
          (Trail.relative (trail ++ [item.1]))
          (inner.pruned (dir ++ [name]) next).here.entries)) :
    Compared files root name
      (trailsThrough (files.without (dir ++ [name])) rules dir name trail way item.1)
      (collector.visit files rules links place (Trail.path root trail) (Trail.relative trail) item)
      (collector.visit (files.without (dir ++ [name])) rules links
        (place.pruned (dir ++ [name]) way) (Trail.path root trail) (Trail.relative trail)
        (item.1, item.2.pruned (dir ++ [name]) (way ++ [item.1]))) := by
  have alike := resolve_without shunned links walked stands outside member elsewhere
  have placeProper := stands.proper shunned.proper
  have stays := placeProper.lookup_pruned_of_mem elsewhere member
  have standsWithout := stands.without shunned.proper outside
  rw [visit, visit, relativePath_relative trailNames, ← Trail.path_concat]
  split
  · exact .error _
  · rename_i short
    rw [Trail.path_concat] at short
    generalize resolved : files.resolve links place item.2 = first at alike
    generalize (files.without (dir ++ [name])).resolve links (place.pruned (dir ++ [name]) way)
      (item.2.pruned (dir ++ [name]) (way ++ [item.1])) = second at alike
    cases alike with
    | error failure => exact .error _
    | file readable content left stuck =>
        exact .same (trailsThrough_eq_empty elsewhere fun next descends =>
          stuck next (Descends.iff.mp descends).2.1) _
    | @directory next inner left innerStands innerOutside leads =>
        simp only [enter]
        split
        · rename_i covered
          refine .same (trailsThrough_eq_empty elsewhere fun next descends => ?_) _
          have clear := (Descends.iff.mp descends).2.2
          rw [covered] at clear
          cases clear
        · rename_i clear
          have descends := Descends.iff.mpr
            ⟨⟨_, _, standsWithout, stays⟩, leads, Bool.not_eq_true _ ▸ clear⟩
          rw [trailsThrough_of_descends elsewhere descends]
          have readable : (inner.pruned (dir ++ [name]) next).here.readable = inner.here.readable :=
            rfl
          rw [readable]
          split
          · exact inside inner left next (Nat.le_of_not_lt short) resolved innerStands innerOutside
              descends
          · exact .error _

/-- At the spot a visit leaves out one entry, if it can find out what the entry is. -/
theorem visit_shunned (collector : Collector)
    (walked : Walked (files.without (dir ++ [name])) rules root trail dir)
    (trailNames : ∀ part ∈ trail, IsName part)
    (reached : files.Reached links place (Trail.path root trail) entries) (member : item ∈ entries)
    (named : item.1 = name) :
    Compared files root name {trail}
      (collector.visit files rules links place (Trail.path root trail) (Trail.relative trail) item)
      (.ok {}) := by
  have covered := fun isDirectory => shunned.covered trail isDirectory walked
  have locates := fun noNul short => reached.locate_entry member noNul short
  rw [visit, relativePath_relative trailNames]
  simp only [named, ← Trail.path_concat] at locates ⊢
  split
  · rename_i long
    refine .illegible (Set.mem_singleton _) ?_ _ _
    rintro ⟨found, located⟩
    exact absurd (FileSystem.short_of_locate located) (Nat.not_le.mpr long)
  · rename_i short
    have entered (target : Located) (left : Nat) :
        collector.enter files rules (Trail.path root (trail ++ [name]))
          (Trail.relative (trail ++ [name])) target left = .ok ({ ignored := 1 } : Collection) := by
      cases target <;> rw [enter, if_pos (covered _)]
    cases resolved : files.resolve links place item.2 with
    | error failure =>
        refine .illegible (Set.mem_singleton _) ?_ _ _
        rintro ⟨found, located⟩
        have noNul := (FileSystem.locate_eq_ok located).2.1
        cases located.symm.trans ((locates noNul (Nat.le_of_not_lt short)).trans resolved)
    | ok found =>
        obtain ⟨target, left⟩ := found
        have marks : Compared files root name {trail}
            (.ok (({} : Collection).leaveOut (Set.ncard {trail}))) (.ok {}) := by
          refine .ok {} (Set.finite_singleton _) ?_
          rintro _ rfl noNul
          exact ⟨_, (locates noNul (Nat.le_of_not_lt short)).trans resolved⟩
        rw [Set.ncard_singleton] at marks
        simp only [entered]
        exact marks

theorem trailsThrough_spot (stands : files.Stands dir place) (outside : ¬ dir ++ [name] <+: dir) :
    trailsThrough (files.without (dir ++ [name])) rules dir name trail dir name = {trail} := by
  have gone : (place.pruned (dir ++ [name]) dir).here.entries.lookup name = none :=
    Directory.lookup_prunedEntries_spot (stands.proper shunned.proper).here.distinct
  ext arrival
  constructor
  · rintro (⟨_, same⟩ | ⟨next, descends, _⟩)
    · exact same
    · obtain ⟨other, entry, otherStands, known⟩ := (Descends.iff.mp descends).1
      obtain rfl := otherStands.unique (stands.without shunned.proper outside)
      cases gone.symm.trans known
  · exact fun same => .inl ⟨rfl, same⟩

/-- All trails along which a walk comes from a directory to that of the entry. -/
theorem trailsAmong_listing (stands : files.Stands way place) (outside : ¬ dir ++ [name] <+: way) :
    trailsAmong (files.without (dir ++ [name])) rules dir name trail way place.here.entries =
      {arrival | Relation.ReflTransGen (Descends (files.without (dir ++ [name])) rules)
        (trail, way) (arrival, dir)} := by
  have placeProper := stands.proper shunned.proper
  ext arrival
  constructor
  · rintro ⟨item, _, ⟨atSpot, rfl⟩ | ⟨next, descends, further⟩⟩
    · obtain ⟨rfl, _⟩ := List.append_inj' atSpot rfl
      exact .refl
    · exact .head descends further
  · intro arrives
    rcases Relation.ReflTransGen.cases_head arrives with same | ⟨⟨_, next⟩, descends, further⟩
    · cases same
      obtain ⟨other, entry, otherStands, known⟩ := shunned.present
      obtain rfl := stands.unique otherStands
      exact ⟨_, mem_of_lookup known, .inl ⟨rfl, rfl⟩⟩
    · cases descends with
      | @intro _ _ _ other part entry otherStands known leads clear =>
          -- The directory lists the name with the entry too.
          obtain rfl := otherStands.unique (stands.without shunned.proper outside)
          have listed := mem_of_lookup known
          have entries : (place.pruned (dir ++ [name]) way).here.entries =
              place.here.entries.filterMap (Directory.prunedItem (dir ++ [name]) way) :=
            Directory.prunedEntries_eq_filterMap placeProper.here.distinct
          rw [entries, List.mem_filterMap] at listed
          obtain ⟨item, member, pruned⟩ := listed
          have named : item.1 = part := by
            rw [Directory.prunedItem] at pruned
            split at pruned
            · cases pruned
            · cases pruned
              rfl
          refine ⟨item, member, .inr ⟨next, ?_, ?_⟩⟩
          · rw [named]
            exact .intro otherStands known leads clear
          · rw [named]
            exact further

/-- A walk over entries leaves out one more for each trail along which it comes to the spot. -/
theorem walkEntries_compared (walked : Walked (files.without (dir ++ [name])) rules root trail way)
    (stands : files.Stands way place) (outside : ¬ dir ++ [name] <+: way)
    (trailNames : ∀ part ∈ trail, IsName part) (distinct : (entries.map Prod.fst).Nodup)
    (reached : files.Reached links place (Trail.path root trail) entries) :
    Compared files root name
      (trailsAmong (files.without (dir ++ [name])) rules dir name trail way entries)
      (collector.walkEntries files rules links place (Trail.path root trail) (Trail.relative trail)
        entries)
      (collector.walkEntries (files.without (dir ++ [name])) rules links
        (place.pruned (dir ++ [name]) way) (Trail.path root trail) (Trail.relative trail)
        (entries.filterMap (Directory.prunedItem (dir ++ [name]) way))) := by
  induction links, place, entries using FileSystem.descent_induction files
    generalizing trail way with
  | nil links place =>
      rw [List.filterMap_nil, walkEntries_nil, walkEntries_nil]
      exact .same (by simp [trailsAmong]) _
  | cons links place other entry others inside ih =>
      obtain ⟨fresh, distinct⟩ := List.nodup_cons.mp distinct
      have further := ih walked stands outside trailNames distinct reached.tail
      have apart : ∀ arrival ∈
            trailsThrough (files.without (dir ++ [name])) rules dir name trail way other,
          arrival ∉ trailsAmong (files.without (dir ++ [name])) rules dir name trail way others :=
        trails_apart fresh
      have member := reached.listed _ List.mem_cons_self
      rw [trailsAmong_cons, List.filterMap_cons, walkEntries_cons]
      by_cases atSpot : way ++ [other] = dir ++ [name]
      · obtain ⟨rfl, named⟩ := List.append_inj' atSpot rfl
        cases named
        have here := visit_shunned shunned collector walked trailNames reached
          List.mem_cons_self rfl
        rw [trailsThrough_spot shunned stands outside] at apart ⊢
        rw [Directory.prunedItem, if_pos rfl]
        have whole := here.append apart further
        rw [Collection.append_nothing] at whole
        exact whole
      · rw [Directory.prunedItem, if_neg atSpot]
        simp only
        rw [walkEntries_cons]
        refine Compared.append apart ?_ further
        refine visit_compared shunned walked stands outside trailNames member atSpot ?_
        intro inner left next short resolved innerStands innerOutside descends
        have innerWalked :
            Walked (files.without (dir ++ [name])) rules root (trail ++ [other]) next := by
          obtain ⟨start, starts, comes⟩ := walked
          exact ⟨start, starts, comes.tail descends⟩
        have innerReached := reached.down shunned.proper List.mem_cons_self short resolved
        rw [← Trail.path_concat] at innerReached
        have innerNames : ∀ part ∈ trail ++ [other], IsName part := by
          rw [List.forall_mem_append]
          exact ⟨trailNames, by simpa using (stands.proper shunned.proper).here.named _ member⟩
        have innerProper := innerStands.proper shunned.proper
        have listing : (inner.pruned (dir ++ [name]) next).here.entries =
            inner.here.entries.filterMap (Directory.prunedItem (dir ++ [name]) next) :=
          Directory.prunedEntries_eq_filterMap innerProper.here.distinct
        rw [listing, ← trailsAmong_listing shunned innerStands innerOutside]
        exact inside inner left resolved innerWalked innerStands innerOutside innerNames
          innerProper.here.distinct innerReached

theorem locate_without : FileSystem.EndsAlike files (dir ++ [name])
    ([], Path.parts (Path.join files.workingDirectory root)) (files.locate root)
    ((files.without (dir ++ [name])).locate root) := by
  rw [FileSystem.locate, FileSystem.locate]
  split
  · exact .error _
  · split
    · exact .error _
    · split
      · exact .error _
      · exact FileSystem.follow_without shunned.proper .top (by simp) shunned.rootAvoids

/-- A walk from a root leaves out one more for each trail along which it comes to the spot. -/
theorem collect_compared (collector : Collector) : Compared files root name
    {trail | Walked (files.without (dir ++ [name])) rules root trail dir}
    (collector.collect files root rules)
    (collector.collect (files.without (dir ++ [name])) root rules) := by
  have alike := locate_without shunned
  rw [collect, collect]
  generalize located : files.locate root = first at alike
  generalize (files.without (dir ++ [name])).locate root = second at alike
  cases alike with
  | error failure => exact .error _
  | file readable content left stuck => exact .error _
  | @directory start place left stands outside leads =>
      have readable : (place.pruned (dir ++ [name]) start).here.readable = place.here.readable :=
        rfl
      simp only [readable]
      split
      · have listing : (place.pruned (dir ++ [name]) start).here.entries =
            place.here.entries.filterMap (Directory.prunedItem (dir ++ [name]) start) :=
          Directory.prunedEntries_eq_filterMap (stands.proper shunned.proper).here.distinct
        have trails : {trail | Walked (files.without (dir ++ [name])) rules root trail dir} =
            trailsAmong (files.without (dir ++ [name])) rules dir name [] start
              place.here.entries := by
          rw [trailsAmong_listing shunned stands outside]
          ext trail
          constructor
          · rintro ⟨other, otherLeads, comes⟩
            exact leads.end_unique otherLeads ▸ comes
          · exact fun comes => ⟨start, leads, comes⟩
        rw [trails, listing]
        exact walkEntries_compared shunned ⟨start, leads, .refl⟩ stands outside (by simp)
          (stands.proper shunned.proper).here.distinct (.of_located shunned.proper located)
      · exact .error _

end Shunned

end Collector

/-- An entry that the rules ignore wherever a walk comes to it only counts: as long as it can be
found out what the entry is, the walk gives what it gives without the entry, but for one more left
out for each time that it comes there, and any other entry in its place does the same.  But where
this cannot be found out, the walk fails. -/
theorem ignored_entry_only_counts (collector : Collector) {files : FileSystem} {rules : IgnoreRules}
    {root : String} {dir : List String} {name : String}
    (shunned : Shunned files rules root dir name) :
    (Legible files rules root dir name →
      collector.collect files root rules =
        (collector.collect (files.without (dir ++ [name])) root rules).map (Collection.leaveOut ·
          {trail | Walked (files.without (dir ++ [name])) rules root trail dir}.ncard) ∧
      (∀ only,
        (∀ trail, Walked (files.without (dir ++ [name])) rules root trail dir ↔ trail = only) →
        collector.collect files root rules =
          (collector.collect (files.without (dir ++ [name])) root rules).map
            (Collection.leaveOut · 1)) ∧
      ∀ others, Shunned others rules root dir name → Legible others rules root dir name →
        others.without (dir ++ [name]) = files.without (dir ++ [name]) →
        collector.collect others root rules = collector.collect files root rules) ∧
    ∀ trail failure, Walked (files.without (dir ++ [name])) rules root trail dir →
      (Trail.path root (trail ++ [name])).toList.contains '\x00' = false →
      files.locate (Trail.path root (trail ++ [name])) = .error failure →
      ∃ error, collector.collect files root rules = .error error := by
  have counts {tree : FileSystem} (shunned : Shunned tree rules root dir name)
      (legible : Legible tree rules root dir name) : collector.collect tree root rules =
        (collector.collect (tree.without (dir ++ [name])) root rules).map (Collection.leaveOut ·
          {trail | Walked (tree.without (dir ++ [name])) rules root trail dir}.ncard) := by
    have compared := Collector.collect_compared shunned collector
    generalize collector.collect tree root rules = first at compared ⊢
    generalize collector.collect (tree.without (dir ++ [name])) root rules = second at compared ⊢
    cases compared with
    | error error => rfl
    | ok collection finite legible => rfl
    | illegible member illegible error second => exact absurd (legible _ member) illegible
  refine ⟨fun legible => ⟨counts shunned legible, ?_, ?_⟩, ?_⟩
  · intro only once
    have single : {trail | Walked (files.without (dir ++ [name])) rules root trail dir} = {only} :=
      Set.ext once
    rw [counts shunned legible, single, Set.ncard_singleton]
  · intro others otherShunned otherLegible same
    rw [counts otherShunned otherLegible, counts shunned legible, same]
  · intro trail failure walked noNul unknown
    have compared := Collector.collect_compared shunned collector
    generalize collector.collect files root rules = first at compared ⊢
    generalize collector.collect (files.without (dir ++ [name])) root rules = second at compared
    cases compared with
    | error error => exact ⟨error, rfl⟩
    | illegible member illegible error second => exact ⟨error, rfl⟩
    | ok collection finite legible =>
        obtain ⟨found, located⟩ := legible trail walked noNul
        cases located.symm.trans unknown

namespace OldEntry

/-- A directory with an entry that the rules ignore, whatever it is. -/
def source (entry : Entry) : Directory :=
  ⟨true, [("old", entry), ("a.js", .file true ⟨#[120]⟩)]⟩

def files (entry : Entry) : FileSystem where
  root := ⟨true, [("src", .directory true (source entry).entries)]⟩
  workingDirectory := "/"

/-- The rest of the directory. -/
def rest : Directory := ⟨true, [("a.js", .file true ⟨#[120]⟩)]⟩

def restFiles : FileSystem where
  root := ⟨true, [("src", .directory true rest.entries)]⟩
  workingDirectory := "/"

def rules : IgnoreRules :=
  ⟨"/src", [⟨[.leadingDirectories, .char 'o', .anyBytes], false, false⟩], []⟩

theorem without (entry : Entry) : (files entry).without (["src"] ++ ["old"]) = restFiles :=
  rfl

theorem isName {name : String} (known : name ∈ ["src", "old", "a.js"]) : IsName name := by
  simp only [List.mem_cons, List.not_mem_nil, or_false] at known
  rcases known with rfl | rfl | rfl <;> constructor <;> decide

theorem proper {entry : Entry} (entryProper : entry.Proper) : (files entry).Proper := by
  have sourceProper : Entry.Proper (.directory true (source entry).entries) :=
    .directory (by simp [source]) (by simp [source, isName])
      (by simp [source, entryProper, Entry.Proper.file])
  exact ⟨by simp [files], by simp [files, isName], by simp [files, sourceProper]⟩

theorem stands : restFiles.Stands ["src"] (restFiles.top.down rest) :=
  .at_top rfl

theorem reaches : restFiles.Reaches ([], Path.parts (Path.join "/" "/src")) (["src"], []) := by
  have parts : Path.parts (Path.join "/" "/src") = ["", "src"] := by decide
  rw [parts]
  refine .head (.idle (by decide)) (.single ?_)
  exact .at_top (by decide) (by decide) rfl

theorem listed {other : String} {entry : Entry} {place : Place}
    (otherStands : restFiles.Stands ["src"] place)
    (known : place.here.entries.lookup other = some entry) : other = "a.js" := by
  obtain rfl := otherStands.unique stands
  have member : (other, entry) ∈ [("a.js", Entry.file true ⟨#[120]⟩)] := mem_of_lookup known
  simp only [List.mem_singleton, Prod.mk.injEq] at member
  exact member.1

theorem stuck (next : List String × List String) : ¬ restFiles.Step (["src"], ["a.js"]) next :=
  fun step => step.not_at_file (by decide) (by decide) stands rfl

theorem walked_iff (trail way : List String) :
    Walked restFiles rules "/src" trail way ↔ trail = [] ∧ way = ["src"] := by
  constructor
  · rintro ⟨start, starts, comes⟩
    obtain rfl := reaches.end_unique starts
    rcases Relation.ReflTransGen.cases_head comes with same | ⟨_, descends, _⟩
    · cases same
      exact ⟨rfl, rfl⟩
    · cases descends with
      | intro otherStands known leads clear =>
          obtain rfl := listed otherStands known
          rcases Relation.ReflTransGen.cases_head leads with ends | ⟨_, step, _⟩
          · cases ends
          · exact absurd step (stuck _)
  · rintro ⟨rfl, rfl⟩
    exact ⟨_, reaches, .refl⟩

theorem shunned {entry : Entry} (entryProper : entry.Proper) :
    Shunned (files entry) rules "/src" ["src"] "old" where
  proper := proper entryProper
  present := ⟨(files entry).top.down (source entry), entry, .at_top rfl, rfl⟩
  covered := by
    rw [without]
    intro trail isDirectory walked
    obtain ⟨rfl, _⟩ := (walked_iff _ _).mp walked
    cases isDirectory <;> decide +kernel
  rootAvoids := by
    have parts : Path.parts (Path.join "/" "/src") = ["", "src"] := by decide
    rw [without]
    show restFiles.Avoids _ ([], Path.parts (Path.join "/" "/src"))
    rw [parts]
    refine FileSystem.avoids_cons (by decide) fun next step => ?_
    obtain rfl := step.unique (.idle (by decide))
    refine FileSystem.avoids_cons (by decide) fun next step => ?_
    obtain rfl := step.unique (.at_top (by decide) (by decide) rfl)
    exact FileSystem.avoids_end
  entriesAvoid := by
    rw [without]
    intro trail way place other entry walked otherStands known
    obtain ⟨_, rfl⟩ := (walked_iff _ _).mp walked
    obtain rfl := listed otherStands known
    exact FileSystem.avoids_cons (by decide) fun next step => absurd step (stuck next)

theorem located (entry : Entry) :
    (files entry).locate "/src" = .ok (.directory ((files entry).top.down (source entry)), 40) :=
  FileSystem.locate_of_top "src" (by decide) (isName (by simp)) rfl (by decide) (by decide)

theorem locate_old (entry : Entry) : (files entry).locate "/src/old" =
    (files entry).resolve 40 ((files entry).top.down (source entry)) entry := by
  have joined : Path.join "/src" "old" = "/src/old" := by decide
  rw [← joined]
  exact FileSystem.locate_join (located entry) (isName (by simp)) rfl (by decide) (by decide)

theorem legible {entry : Entry} {found : Located × Nat}
    (resolved : (files entry).resolve 40 ((files entry).top.down (source entry)) entry =
      .ok found) :
    Legible (files entry) rules "/src" ["src"] "old" := by
  rw [Legible, without]
  intro trail walked
  obtain ⟨rfl, _⟩ := (walked_iff _ _).mp walked
  have path : Trail.path "/src" ([] ++ ["old"]) = "/src/old" := by decide
  rw [path, locate_old]
  exact ⟨found, resolved⟩

def collector : Collector := ⟨["js"], 1⟩

theorem resolve_up : (files (.link "..")).resolve 40
    ((files (.link "..")).top.down (source (.link ".."))) (.link "..") =
      .ok (.directory (files (.link "..")).top, 39) := by
  have parts : Path.parts ".." = [".."] := by decide
  have start : Path.isAbsolute ".." = false := by decide
  simp only [FileSystem.resolve, FileSystem.startOf, parts, start]
  simp [FileSystem.follow, Path.isIdle, Place.down, Place.up, FileSystem.top]

theorem resolve_nowhere : (files (.link "nowhere")).resolve 40
    ((files (.link "nowhere")).top.down (source (.link "nowhere"))) (.link "nowhere") =
      .error .noSuchEntry := by
  have parts : Path.parts "nowhere" = ["nowhere"] := by decide
  have start : Path.isAbsolute "nowhere" = false := by decide
  have short : ¬ FileSystem.nameLimit < "nowhere".utf8ByteSize := by decide
  simp only [FileSystem.resolve, FileSystem.startOf, parts, start]
  simp [FileSystem.follow, Path.isIdle, Place.down, source, short, List.lookup_cons]

theorem collect_dangling : collector.collect (files (.link "nowhere")) "/src" rules =
    .error (.io "/src/old" .noSuchEntry) := by
  have joined : Path.join "/src" "old" = "/src/old" := by decide
  have short : ¬ FileSystem.pathLimit < "/src/old".utf8ByteSize := by decide
  have readable :
      ((files (.link "nowhere")).top.down (source (.link "nowhere"))).here.readable = true :=
    rfl
  rw [Collector.collect, located]
  simp only [readable, if_true]
  have entries : ((files (.link "nowhere")).top.down (source (.link "nowhere"))).here.entries =
    [("old", .link "nowhere"), ("a.js", .file true ⟨#[120]⟩)] := rfl
  rw [entries, Collector.walkEntries_cons, Collector.visit, joined, if_neg short, resolve_nowhere]
  rfl

theorem collect_file : collector.collect (files (.file true ⟨#[]⟩)) "/src" rules =
    .ok { files := [⟨"/src/a.js", .plainScript, 1⟩], ignored := 1 } := by
  have joined : Path.join "/src" "old" = "/src/old" := by decide
  have otherJoined : Path.join "/src" "a.js" = "/src/a.js" := by decide
  have short : ¬ FileSystem.pathLimit < "/src/old".utf8ByteSize := by decide
  have otherShort : ¬ FileSystem.pathLimit < "/src/a.js".utf8ByteSize := by decide
  have covered : rules.isIgnored "old" false = true := by decide +kernel
  have clear : rules.isIgnored "a.js" false = false := by decide +kernel
  have adds : collector.collectFile "/src/a.js" (ByteArray.mk #[120]).size =
      { files := [⟨"/src/a.js", .plainScript, 1⟩] } := by
    decide +kernel
  rw [Collector.collect, located]
  simp only [source, FileSystem.top, files, Place.down, if_true, Collector.walkEntries_cons,
    Collector.walkEntries_nil, Collector.visit, FileSystem.resolve, Collector.relativePath, joined,
    otherJoined, short, otherShort, if_false, Collector.enter, covered, clear, Bool.false_eq_true,
    adds]
  rfl

end OldEntry

theorem ignored_entry_only_counts_sample :
    Shunned (OldEntry.files (.link "..")) OldEntry.rules "/src" ["src"] "old" ∧
      Legible (OldEntry.files (.link "..")) OldEntry.rules "/src" ["src"] "old" ∧
      OldEntry.collector.collect (OldEntry.files (.link "..")) "/src" OldEntry.rules =
        (OldEntry.collector.collect OldEntry.restFiles "/src" OldEntry.rules).map
          (Collection.leaveOut · 1) := by
  have shunned := OldEntry.shunned (.link "..")
  have legible := OldEntry.legible OldEntry.resolve_up
  refine ⟨shunned, legible, ?_⟩
  refine ((ignored_entry_only_counts OldEntry.collector shunned).1 legible).2.1 [] fun trail => ?_
  rw [OldEntry.without, OldEntry.walked_iff]
  exact and_iff_left rfl

/-- An ignored link that leads nowhere makes the walk fail, which any file in its place does not. -/
theorem dangling_ignored_entry_fails :
    Shunned (OldEntry.files (.link "nowhere")) OldEntry.rules "/src" ["src"] "old" ∧
      Shunned (OldEntry.files (.file true ⟨#[]⟩)) OldEntry.rules "/src" ["src"] "old" ∧
      (OldEntry.files (.link "nowhere")).without (["src"] ++ ["old"]) =
        (OldEntry.files (.file true ⟨#[]⟩)).without (["src"] ++ ["old"]) ∧
      OldEntry.collector.collect (OldEntry.files (.link "nowhere")) "/src" OldEntry.rules =
        .error (.io "/src/old" .noSuchEntry) ∧
      OldEntry.collector.collect (OldEntry.files (.file true ⟨#[]⟩)) "/src" OldEntry.rules =
        .ok { files := [⟨"/src/a.js", .plainScript, 1⟩], ignored := 1 } :=
  ⟨OldEntry.shunned (.link _), OldEntry.shunned (.file _ _), rfl, OldEntry.collect_dangling,
    OldEntry.collect_file⟩

end EnvAudit
