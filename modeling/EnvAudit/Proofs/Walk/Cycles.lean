import EnvAudit.Proofs.Walk.Afresh
import EnvAudit.Proofs.Walk.Inert
import EnvAudit.Proofs.Walk.Success

/-!
# Walks around cycles

Links can lead a walk back to a directory that it has come from, and nothing tells the walk so.
Without links a tree has no cycles, so each time around costs a link, and in the end there are none
left: the walk fails, unless the rules end it before.
-/

namespace EnvAudit

namespace FileSystem

/-- The names lead by way of entries from one directory to another, whatever the rules are. -/
inductive Passes (files : FileSystem) (way : List String) : List String → List String → Prop
  | here : Passes files way [] way
  | on {names middle next : List String} {place : Place} {name : String} {entry : Entry}
      (passes : Passes files way names middle) (stands : files.Stands middle place)
      (known : place.here.entries.lookup name = some entry)
      (leads : files.Reaches (middle, [name]) (next, [])) :
      Passes files way (names ++ [name]) next

variable {files : FileSystem} {links left : Nat} {place : Place} {target : Located}
variable {way next : List String} {part : String} {parts names more : List String}

/-- After a step, a path that is followed to its end has the rest of the way to go. -/
theorem Reaches.after_step {middle : List String × List String}
    (reaches : files.Reaches (way, part :: parts) (next, []))
    (step : files.Step (way, part :: parts) middle) : files.Reaches middle (next, []) := by
  rcases Relation.ReflTransGen.cases_head reaches with ends | ⟨other, first, further⟩
  · cases ends
  · exact step.unique first ▸ further

/-- What is found at the end of a path is the directory that stands there, if the path reaches
one. -/
theorem Stands.follow_reaches (stands : files.Stands way place)
    (ends : files.follow links place parts = .ok (target, left))
    (reaches : files.Reaches (way, parts) (next, [])) :
    ∃ inner, target = .directory inner ∧ files.Stands next inner := by
  fun_induction FileSystem.follow files links place parts generalizing way with
  | case1 links place =>
      cases ends
      obtain rfl := reaches.end_unique .refl
      exact ⟨place, rfl, stands⟩
  | case2 links place part parts idle ih => exact ih stands ends (reaches.after_step (.idle idle))
  | case3 links place parts idle ih => exact ih stands.up ends (reaches.after_step .up)
  | case4 => cases ends
  | case5 links place part parts busy notUp readable entries known ih =>
      exact ih (stands.down known) ends (reaches.after_step (.down busy notUp stands known))
  | case6 links place part busy notUp readable content known =>
      rcases Relation.ReflTransGen.cases_head reaches with ends | ⟨other, first, _⟩
      · cases ends
      · exact (first.not_at_file busy notUp stands known).elim
  | case7 => cases ends
  | case8 => cases ends
  | case9 place part parts busy notUp target known links ih =>
      exact ih (stands.startOf target) ends (reaches.after_step (.link busy notUp stands known))

theorem Passes.append {middle : List String} (passes : files.Passes way names middle)
    (further : files.Passes middle more next) : files.Passes way (names ++ more) next := by
  induction further with
  | here => simpa using passes
  | on _ stands known leads ih =>
      rw [← List.append_assoc]
      exact .on ih stands known leads

/-- From a directory, names lead to the directories that stand below it. -/
theorem Passes.of_stands (proper : files.Proper) {down : List String}
    (stands : files.Stands (way ++ down) place) : files.Passes way down (way ++ down) := by
  induction down using List.reverseRecOn generalizing place with
  | nil =>
      rw [List.append_nil]
      exact .here
  | append_singleton down name ih =>
      rw [← List.append_assoc] at stands ⊢
      obtain ⟨above, readable, entries, aboveStands, known, rfl⟩ := Stands.concat_iff.mp stands
      have isName := (aboveStands.proper proper).here.named _ (mem_of_lookup known)
      exact .on (ih aboveStands) aboveStands known
        (.single (.down isName.not_idle isName.moves.2 aboveStands known))

end FileSystem

/-- A walk comes along a trail to a directory with a link under the name, and the link leads up to a
directory from where the way goes down to that of the link. -/
structure LeadsBack (files : FileSystem) (rules : IgnoreRules) (root : String)
    (trail above down : List String) (name : String) : Prop where
  walked : Walked files rules root trail (above ++ down)
  isLink : ∃ place target, files.Stands (above ++ down) place ∧
    place.here.entries.lookup name = some (.link target)
  leads : files.Reaches (above ++ down, [name]) (above, [])

/-- However often the names have led around behind a trail, the rules ignore no directory on the way
around. -/
def Unhindered (rules : IgnoreRules) (trail around : List String) : Prop :=
  ∀ count part, part ≠ [] → part <+: around →
    rules.isIgnored (Trail.relative (trail ++ (List.replicate count around).flatten ++ part)) true =
      false

/-- A walk gets through everything below a directory, to which it has come along a trail, although
only `links` links may be followed from there. -/
structure GetsThrough (files : FileSystem) (rules : IgnoreRules) (links : Nat)
    (state : List String × List String) : Prop where
  areNames : ∀ name ∈ state.1, IsName name
  walkable : ∃ place path, files.Stands state.2 place ∧
    Collector.Walkable files rules links place path (Trail.relative state.1) place.here.entries

section Around

variable {files : FileSystem} {rules : IgnoreRules} {links : Nat} {root : String}
variable {state further : List String × List String} {trail way next names around : List String}

/-- A walk that goes down has fewer links to follow, or comes to a deeper directory. -/
theorem GetsThrough.descend (proper : files.Proper)
    (getsThrough : GetsThrough files rules links state)
    (descends : Descends files rules state further) :
    ∃ left, GetsThrough files rules left further ∧
      (left < links ∨ left = links ∧ state.2.length < further.2.length) := by
  cases descends with
  | @intro trail way next place name entry stands known leads clear =>
      obtain ⟨trailNames, other, path, otherStands, walkable⟩ := getsThrough
      obtain rfl := otherStands.unique stands
      have member := mem_of_lookup known
      have isName := (stands.proper proper).here.named _ member
      cases walkable with
      | intro short resolved listed below =>
          obtain ⟨target, left, found⟩ := resolved _ member
          have followed := (FileSystem.follow_name isName known).trans found
          obtain ⟨inner, rfl, innerStands⟩ := stands.follow_reaches followed leads
          have joined : Collector.relativePath (Trail.relative trail) name =
              Trail.relative (trail ++ [name]) :=
            Collector.relativePath_relative trailNames name
          have inside := below _ member inner left found
          simp only [joined] at inside
          have innerNames : ∀ part ∈ trail ++ [name], IsName part := by
            rw [List.forall_mem_append]
            exact ⟨trailNames, by simpa using isName⟩
          refine ⟨left, ⟨innerNames, inner, _, innerStands, inside clear⟩, ?_⟩
          cases entry with
          | file readable content => cases found
          | link target => exact .inl (FileSystem.resolve_link_lt found)
          | directory readable entries =>
              cases found
              obtain rfl := leads.end_unique
                (.single (.down isName.not_idle isName.moves.2 stands known))
              exact .inr ⟨rfl, by simp⟩

theorem GetsThrough.run (proper : files.Proper) (getsThrough : GetsThrough files rules links state)
    (runs : Relation.TransGen (Descends files rules) state further) :
    ∃ left, GetsThrough files rules left further ∧
      (left < links ∨ left = links ∧ state.2.length < further.2.length) := by
  induction runs with
  | single descends => exact getsThrough.descend proper descends
  | tail _ descends ih =>
      obtain ⟨middle, middleThrough, before⟩ := ih
      obtain ⟨left, through, behind⟩ := middleThrough.descend proper descends
      exact ⟨left, through, by omega⟩

/-- A walk goes down along names that the rules do not ignore. -/
theorem FileSystem.Passes.descends (passes : files.Passes way names next)
    (clear : ∀ part, part ≠ [] → part <+: names →
      rules.isIgnored (Trail.relative (trail ++ part)) true = false) :
    Relation.ReflTransGen (Descends files rules) (trail, way) (trail ++ names, next) := by
  induction passes with
  | here => rw [List.append_nil]
  | @on names middle next place name entry passes stands known leads ih =>
      have before := ih fun part nonempty starts =>
        clear part nonempty (starts.trans (List.prefix_append _ _))
      have last := clear (names ++ [name]) (by simp) List.prefix_rfl
      rw [← List.append_assoc] at last ⊢
      exact before.tail (.intro stands known leads last)

/-- No walk gets through a cycle: each time around there are fewer links to follow. -/
theorem GetsThrough.not_around (proper : files.Proper) (passes : files.Passes way around way)
    (moves : around ≠ []) (unhindered : Unhindered rules trail around) (count : Nat) :
    ¬ GetsThrough files rules links (trail ++ (List.replicate count around).flatten, way) := by
  induction links using Nat.strongRecOn generalizing count with
  | ind links ih =>
      intro getsThrough
      have once := passes.descends (unhindered count)
      have onward : Relation.TransGen (Descends files rules)
          (trail ++ (List.replicate count around).flatten, way)
          (trail ++ (List.replicate count around).flatten ++ around, way) := by
        rcases Relation.reflTransGen_iff_eq_or_transGen.mp once with same | onward
        · simp [moves] at same
        · exact onward
      obtain ⟨left, through, fewer⟩ := getsThrough.run proper onward
      have fewer : left < links := by simpa using fewer
      have again : trail ++ (List.replicate count around).flatten ++ around =
          trail ++ (List.replicate (count + 1) around).flatten := by
        rw [List.replicate_succ', List.flatten_append, List.append_assoc]
        simp
      rw [again] at through
      exact ih left fewer (count + 1) through

/-- Behind a link to a directory above it, the way down to the link closes a cycle. -/
theorem LeadsBack.passes {above down : List String} {name : String}
    (proper : files.Proper) (leadsBack : LeadsBack files rules root trail above down name) :
    files.Passes (above ++ down) (name :: down) (above ++ down) := by
  obtain ⟨place, target, stands, known⟩ := leadsBack.isLink
  have back : files.Passes (above ++ down) ([] ++ [name]) above :=
    .on .here stands known leadsBack.leads
  exact back.append (.of_stands proper stands)

end Around

namespace Collector

variable {collector : Collector} {files : FileSystem} {rules : IgnoreRules} {links : Nat}
variable {place : Place} {path relative root : String} {entries : List (String × Entry)}
variable {error : ScanError} {trail way around : List String}

theorem visit_error {item : String × Entry}
    (inside : ∀ inner left, files.resolve links place item.2 = .ok (.directory inner, left) →
      collector.walkEntries files rules left inner (Path.join path item.1)
        (relativePath relative item.1) inner.here.entries = .error error →
      ∃ path failure, error = .io path failure)
    (fails : collector.visit files rules links place path relative item = .error error) :
    ∃ path failure, error = .io path failure := by
  rw [visit] at fails
  split at fails
  · cases fails
    exact ⟨_, _, rfl⟩
  · split at fails
    · cases fails
      exact ⟨_, _, rfl⟩
    · rename_i target left resolved
      cases target with
      | file readable content =>
          rw [enter] at fails
          split at fails <;> cases fails
      | directory inner =>
          rw [enter] at fails
          split at fails
          · cases fails
          · split at fails
            · exact inside inner left resolved fails
            · cases fails
              exact ⟨_, _, rfl⟩

/-- A walk fails only where the file system fails it. -/
theorem walkEntries_error
    (fails : collector.walkEntries files rules links place path relative entries = .error error) :
    ∃ path failure, error = .io path failure := by
  induction links, place, entries using FileSystem.descent_induction files
    generalizing path relative with
  | nil links place => simp at fails
  | cons links place name entry others inside ih =>
      rw [walkEntries_cons] at fails
      rcases bind_eq_error_iff.mp fails with visited | ⟨part, _, fails⟩
      · exact visit_error (fun inner left leads => inside inner left leads) visited
      · rcases bind_eq_error_iff.mp fails with walked | ⟨rest, _, ends⟩
        · exact ih walked
        · cases ends

theorem collect_error (fails : collector.collect files root rules = .error error) :
    ∃ path failure, error = .io path failure := by
  rw [collect] at fails
  split at fails
  · cases fails
    exact ⟨_, _, rfl⟩
  · cases fails
    exact ⟨_, _, rfl⟩
  · split at fails
    · exact walkEntries_error fails
    · cases fails
      exact ⟨_, _, rfl⟩

/-- If a walk succeeds, then it gets through everything below each directory that it comes to. -/
theorem getsThrough_of_collect {collection : Collection} (proper : files.Proper)
    (collected : collector.collect files root rules = .ok collection)
    (walked : Walked files rules root trail way) :
    ∃ left, GetsThrough files rules left (trail, way) := by
  obtain ⟨place, links, located, _, walkable⟩ := collect_ok_iff.mp ⟨collection, collected⟩
  obtain ⟨start, starts, comes⟩ := walked
  obtain ⟨_, _, ends⟩ := FileSystem.locate_eq_ok located
  have standsAtTop : files.Stands [] files.top := .top
  obtain ⟨inner, same, stands⟩ := standsAtTop.follow_reaches ends starts
  cases same
  have atStart : GetsThrough files rules links ([], start) :=
    ⟨by simp, place, root, stands, walkable⟩
  rcases Relation.reflTransGen_iff_eq_or_transGen.mp comes with same | runs
  · cases same
    exact ⟨links, atStart⟩
  · obtain ⟨left, through, _⟩ := atStart.run proper runs
    exact ⟨left, through⟩

theorem collect_fails_around (proper : files.Proper) (walked : Walked files rules root trail way)
    (passes : files.Passes way around way) (moves : around ≠ [])
    (unhindered : Unhindered rules trail around) :
    ∃ path failure, collector.collect files root rules = .error (.io path failure) := by
  cases collected : collector.collect files root rules with
  | error error =>
      obtain ⟨path, failure, rfl⟩ := collect_error collected
      exact ⟨path, failure, rfl⟩
  | ok collection =>
      obtain ⟨left, through⟩ := getsThrough_of_collect proper collected walked
      have start : trail ++ (List.replicate 0 around).flatten = trail := by simp
      rw [← start] at through
      exact absurd through (GetsThrough.not_around proper passes moves unhindered 0)

end Collector

/-- A walk comes to an end, although it looks up every path afresh and does not know where it has
been: it goes down no further than the number of links and the height of the tree allow.  Where it
comes to a cycle that the rules never end, it fails; so it does behind every link to a directory
above the link, as well as behind names that lead back to a directory in another way. -/
theorem walk_ends_despite_cycles (collector : Collector) {files : FileSystem} (rules : IgnoreRules)
    (root : String) (proper : files.Proper) :
    (∃ height, files.Within height) ∧
    (∀ height depth, files.NulFree → files.Within height →
      (FileSystem.linkLimit + 1) * (height + 1) ≤ depth →
      (collector.walkDown files rules depth root "").run =
        some (collector.collect files root rules)) ∧
    (∀ trail above down name, LeadsBack files rules root trail above down name →
      Unhindered rules trail (name :: down) →
      ∃ path failure, collector.collect files root rules = .error (.io path failure)) ∧
    ∀ trail way around, Walked files rules root trail way → files.Passes way around way →
      around ≠ [] → Unhindered rules trail around →
      ∃ path failure, collector.collect files root rules = .error (.io path failure) := by
  refine ⟨files.exists_within, ?ends, ?above, ?around⟩
  case ends =>
    intro height depth nulFree within deep
    exact Collector.walkDown_eq_collect proper nulFree within root deep
  case above =>
    intro trail above down name leadsBack unhindered
    exact Collector.collect_fails_around proper leadsBack.walked (leadsBack.passes proper)
      (List.cons_ne_nil _ _) unhindered
  case around =>
    intro trail way around walked passes moves unhindered
    exact Collector.collect_fails_around proper walked passes moves unhindered

namespace Loop

/-- A directory with nothing but a link to the one above. -/
def sub : Directory := ⟨true, [("up", .link "..")]⟩

def source : Directory :=
  ⟨true, [("sub", .directory true sub.entries), ("a.js", .file true ⟨#[120]⟩)]⟩

def files : FileSystem where
  root := ⟨true, [("src", .directory true source.entries)]⟩
  workingDirectory := "/"

def rules : IgnoreRules := ⟨"/src", [], []⟩

theorem isName {name : String} (known : name ∈ ["src", "sub", "a.js", "up"]) : IsName name := by
  simp only [List.mem_cons, List.not_mem_nil, or_false] at known
  rcases known with rfl | rfl | rfl | rfl <;> constructor <;> decide

theorem proper : files.Proper := by
  have subProper : Entry.Proper (.directory true sub.entries) :=
    .directory (by simp [sub]) (by simp [sub, isName]) (by simp [sub, Entry.Proper.link])
  have sourceProper : Entry.Proper (.directory true source.entries) :=
    .directory (by simp [source]) (by simp [source, isName])
      (by simp [source, subProper, Entry.Proper.file])
  exact ⟨by simp [files], by simp [files, isName], by simp [files, sourceProper]⟩

theorem listed {way : List String} {place : Place} (stands : files.Stands way place) :
    place.here.entries ∈ [files.root.entries, source.entries, sub.entries] := by
  induction stands with
  | top => exact List.mem_cons_self
  | down stands known ih =>
      have member := mem_of_lookup known
      simp only [List.mem_cons, List.not_mem_nil, or_false] at ih
      rcases ih with same | same | same
      · simp_all [files, Place.down]
      · simp_all [source, Place.down]
      · simp_all [sub]

theorem nulFree : files.NulFree := by
  have all : ∀ entries ∈ [files.root.entries, source.entries, sub.entries],
      ∀ item ∈ entries, item.1.toList.contains '\x00' = false := by
    decide
  exact fun way place stands => all _ (listed stands)

theorem stands : files.Stands ["src"] (files.top.down source) :=
  .at_top rfl

theorem stands_sub : files.Stands (["src"] ++ ["sub"]) ((files.top.down source).down sub) :=
  stands.down rfl

theorem leadsBack : LeadsBack files rules "/src" ["sub"] ["src"] ["sub"] "up" where
  walked := by
    have parts : Path.parts (Path.join "/" "/src") = ["", "src"] := by decide
    have starts : files.Reaches ([], Path.parts (Path.join "/" "/src")) (["src"], []) := by
      rw [parts]
      exact .head (.idle (by decide)) (.single (.at_top (by decide) (by decide) rfl))
    exact ⟨["src"], starts, .single (.intro stands rfl
      (.single (.down (by decide) (by decide) stands rfl)) rfl)⟩
  isLink := ⟨_, _, stands_sub, rfl⟩
  leads := by
    have parts : Path.parts ".." = [".."] := by decide
    have start : FileSystem.wayOf (["src"] ++ ["sub"]) ".." = ["src"] ++ ["sub"] := by decide
    have link : files.Step (["src"] ++ ["sub"], ["up"])
        (FileSystem.wayOf (["src"] ++ ["sub"]) "..", Path.parts ".." ++ []) :=
      .link (by decide) (by decide) stands_sub rfl
    rw [start, parts] at link
    exact .head link (.single .up)

end Loop

theorem walk_ends_despite_cycles_loop : ∃ depth path failure,
    ((Collector.mk ["js"] 1).walkDown Loop.files Loop.rules depth "/src" "").run =
      some (.error (.io path failure)) := by
  obtain ⟨⟨height, within⟩, ends, fails, _⟩ :=
    walk_ends_despite_cycles ⟨["js"], 1⟩ Loop.rules "/src" Loop.proper
  obtain ⟨path, failure, failed⟩ := fails _ _ _ _ Loop.leadsBack fun _ _ _ _ => rfl
  exact ⟨_, path, failure, failed ▸ ends height _ Loop.nulFree within le_rfl⟩

end EnvAudit
