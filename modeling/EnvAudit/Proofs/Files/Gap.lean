import EnvAudit.Files.Edit
import EnvAudit.Proofs.Files.Whereabouts

/-!
# Trees without one entry

An entry is taken away from a tree, at a spot that is told by the names of the directories on the
way and its own name.  The places of the tree stay but for what is below the spot, and a path that
does not pass the spot leads to the same as before.
-/

namespace EnvAudit

namespace Directory

theorem lookup_alter_same {name : String} {change : Option Entry → Option Entry}
    {entries : List (String × Entry)} (distinct : (entries.map Prod.fst).Nodup) :
    (alter name change entries).lookup name = change (entries.lookup name) := by
  induction entries with
  | nil => cases changed : change none <;> simp [alter, changed]
  | cons item entries ih =>
      obtain ⟨other, entry⟩ := item
      obtain ⟨fresh, distinct⟩ := List.nodup_cons.mp distinct
      rw [alter]
      by_cases same : other = name
      · subst same
        rw [if_pos rfl, List.lookup_cons_self]
        cases changed : change (some entry) with
        | none =>
            simp only
            rw [List.lookup_eq_none_iff]
            intro item member
            have different : other ≠ item.1 := by
              rintro rfl
              exact fresh (List.mem_map.mpr ⟨item, member, rfl⟩)
            simpa using different
        | some entry => simp
      · have different : (name == other) = false := by simpa using Ne.symm same
        rw [if_neg same, List.lookup_cons, different, List.lookup_cons, different]
        exact ih distinct

/-- A change that adds nothing goes through the entries one by one. -/
theorem alter_eq_filterMap {name : String} {change : Option Entry → Option Entry}
    {entries : List (String × Entry)} (nothing : change none = none)
    (distinct : (entries.map Prod.fst).Nodup) :
    alter name change entries = entries.filterMap fun item =>
      if item.1 = name then (change (some item.2)).map fun entry => (item.1, entry)
      else some item := by
  induction entries with
  | nil => simp [alter, nothing]
  | cons item entries ih =>
      obtain ⟨other, entry⟩ := item
      obtain ⟨fresh, distinct⟩ := List.nodup_cons.mp distinct
      rw [alter, List.filterMap_cons]
      by_cases same : other = name
      · subst same
        have untouched : entries = entries.filterMap fun item =>
            if item.1 = other then (change (some item.2)).map fun entry => (item.1, entry)
            else some item := by
          conv_lhs => rw [← List.filterMap_some (l := entries)]
          apply List.filterMap_congr
          intro item member
          have different : item.1 ≠ other := by
            rintro rfl
            exact fresh (List.mem_map.mpr ⟨item, member, rfl⟩)
          rw [if_neg different]
        rw [if_pos rfl, if_pos rfl, ← untouched]
        cases change (some entry) <;> rfl
      · rw [if_neg same, if_neg same, ih distinct]

/-- The entries of the directory that `way` leads to, without the entry at a spot. -/
def prunedEntries (spot way : List String) (entries : List (String × Entry)) :
    List (String × Entry) :=
  if way <+: spot then eraseIn (spot.drop way.length) entries else entries

def pruned (spot way : List String) (directory : Directory) : Directory :=
  { directory with entries := prunedEntries spot way directory.entries }

end Directory

/-- The entry that `way` leads to, without the one at a spot below it. -/
def Entry.pruned (spot way : List String) : Entry → Entry
  | .directory readable entries => .directory readable (Directory.prunedEntries spot way entries)
  | entry => entry

namespace Directory

variable {spot way rest : List String} {name : String} {entries : List (String × Entry)}

theorem prunedEntries_of_apart (apart : ¬ way <+: spot) :
    prunedEntries spot way entries = entries := by
  rw [prunedEntries, if_neg apart]

theorem prunedEntries_append : prunedEntries (way ++ rest) way entries = eraseIn rest entries := by
  rw [prunedEntries, if_pos (List.prefix_append way rest), List.drop_left]

theorem entry_pruned_of_apart (apart : ¬ way <+: spot) (entry : Entry) :
    entry.pruned spot way = entry := by
  cases entry with
  | directory readable entries => rw [Entry.pruned, prunedEntries_of_apart apart]
  | file readable content => rfl
  | link target => rfl

/-- Every name but the one at the spot stands for what it stood for, but for the gap. -/
theorem lookup_prunedEntries (distinct : (entries.map Prod.fst).Nodup)
    (kept : way ++ [name] ≠ spot) : (prunedEntries spot way entries).lookup name =
      (entries.lookup name).map (Entry.pruned spot (way ++ [name])) := by
  have unchanged (apart : ¬ way ++ [name] <+: spot) :
      (entries.lookup name).map (Entry.pruned spot (way ++ [name])) = entries.lookup name := by
    cases entries.lookup name with
    | none => rfl
    | some entry => rw [Option.map_some, entry_pruned_of_apart apart]
  by_cases above : way <+: spot
  · obtain ⟨rest, rfl⟩ := above
    rw [prunedEntries_append]
    rw [ne_eq, List.append_cancel_left_eq] at kept
    have starts : way ++ [name] <+: way ++ rest ↔ [name] <+: rest :=
      List.prefix_append_right_inj way
    cases rest with
    | nil => rw [unchanged (by rw [starts]; simp), eraseIn]
    | cons next rest =>
        by_cases same : name = next
        · subst same
          cases rest with
          | nil => exact absurd rfl kept
          | cons further rest =>
              rw [eraseIn, lookup_alter_same distinct]
              · have whole :
                    way ++ name :: further :: rest = (way ++ [name]) ++ further :: rest := by
                  simp
                rw [whole]
                cases entries.lookup name with
                | none => rfl
                | some entry =>
                    cases entry with
                    | directory readable inner =>
                        rw [Option.map_some, Entry.pruned, prunedEntries_append]
                    | file readable content => rfl
                    | link target => rfl
              · simp
        · rw [unchanged (by rw [starts]; simpa using same)]
          cases rest with
          | nil => rw [eraseIn, lookup_alter _ _ _ same]
          | cons further rest =>
              rw [eraseIn, lookup_alter _ _ _ same]
              simp
  · rw [prunedEntries_of_apart above, unchanged]
    exact fun below => above ((List.prefix_append way [name]).trans below)

/-- The name at the spot stands for nothing. -/
theorem lookup_prunedEntries_spot (distinct : (entries.map Prod.fst).Nodup) :
    (prunedEntries (way ++ [name]) way entries).lookup name = none := by
  rw [prunedEntries_append, eraseIn, lookup_alter_same distinct]

/-- An entry of the directory that `way` leads to, without the one at a spot. -/
def prunedItem (spot way : List String) (item : String × Entry) : Option (String × Entry) :=
  if way ++ [item.1] = spot then none else some (item.1, item.2.pruned spot (way ++ [item.1]))

/-- The entries stay in their order, and only the one at the spot is gone. -/
theorem prunedEntries_eq_filterMap (distinct : (entries.map Prod.fst).Nodup) :
    prunedEntries spot way entries = entries.filterMap (prunedItem spot way) := by
  have kept (item : String × Entry) (apart : ¬ way ++ [item.1] <+: spot) :
      prunedItem spot way item = some item := by
    have elsewhere : way ++ [item.1] ≠ spot := fun same => apart (same ▸ List.prefix_rfl)
    rw [prunedItem, if_neg elsewhere, entry_pruned_of_apart apart]
  by_cases above : way <+: spot
  · obtain ⟨rest, rfl⟩ := above
    have starts (name : String) : way ++ [name] <+: way ++ rest ↔ [name] <+: rest :=
      List.prefix_append_right_inj way
    rw [prunedEntries_append]
    rcases rest with - | ⟨next, - | ⟨further, rest⟩⟩
    · rw [eraseIn]
      conv_lhs => rw [← List.filterMap_some (l := entries)]
      exact List.filterMap_congr fun item _ => (kept item (by rw [starts]; simp)).symm
    · rw [eraseIn, alter_eq_filterMap rfl distinct]
      · apply List.filterMap_congr
        intro item _
        by_cases same : item.1 = next
        · rw [if_pos same, prunedItem, if_pos (by rw [same])]
          rfl
        · rw [if_neg same, kept item (by rw [starts]; simpa using same)]
    · rw [eraseIn, alter_eq_filterMap rfl distinct]
      · apply List.filterMap_congr
        rintro ⟨name, entry⟩ _
        by_cases same : name = next
        · subst same
          have whole : way ++ name :: further :: rest = (way ++ [name]) ++ further :: rest := by
            simp
          rw [if_pos rfl, prunedItem, if_neg (by simp), whole]
          cases entry with
          | directory readable inner => rw [Entry.pruned, prunedEntries_append]; rfl
          | file readable content => rfl
          | link target => rfl
        · rw [if_neg same, kept _ (by rw [starts]; simpa using same)]
      · simp
  · rw [prunedEntries_of_apart above]
    conv_lhs => rw [← List.filterMap_some (l := entries)]
    exact List.filterMap_congr fun item _ =>
      (kept item fun below => above ((List.prefix_append way _).trans below)).symm

end Directory

namespace Place

/-- The directories above the one that `way` leads to, without the entry at a spot. -/
def prunedAbove (spot : List String) : (way : List String) → List Directory → List Directory
  | _, [] => []
  | way, directory :: above =>
      directory.pruned spot way.dropLast :: prunedAbove spot way.dropLast above

/-- The place that `way` leads to, without the entry at a spot. -/
def pruned (spot way : List String) (place : Place) : Place :=
  ⟨place.here.pruned spot way, prunedAbove spot way place.above⟩

theorem pruned_down (spot way : List String) (place : Place) (name : String)
    (directory : Directory) : (place.down directory).pruned spot (way ++ [name]) =
      (place.pruned spot way).down (directory.pruned spot (way ++ [name])) := by
  simp [pruned, down, prunedAbove]

theorem lookup_pruned {spot way : List String} {place : Place} {name : String}
    (proper : place.Proper) (kept : way ++ [name] ≠ spot) :
    (place.pruned spot way).here.entries.lookup name =
      (place.here.entries.lookup name).map (Entry.pruned spot (way ++ [name])) :=
  Directory.lookup_prunedEntries proper.here.distinct kept

end Place

namespace FileSystem

/-- The tree without the entry at a spot. -/
def without (files : FileSystem) (spot : List String) : FileSystem :=
  { files with root := files.root.pruned spot [] }

variable {files : FileSystem} {spot way : List String} {place : Place}

theorem Stands.pruned_up (stands : files.Stands way place) :
    (place.pruned spot way).up = place.up.pruned spot way.dropLast := by
  cases stands with
  | top => rfl
  | down stands known =>
      rw [Place.pruned_down, List.dropLast_concat]
      rfl

/-- Where a place stands, it stands without the entry too, unless it is the entry or below it. -/
theorem Stands.without (stands : files.Stands way place) (proper : files.Proper)
    (outside : ¬ spot <+: way) : (files.without spot).Stands way (place.pruned spot way) := by
  induction stands with
  | top => exact .top
  | @down way place name readable entries stands known ih =>
      have kept : way ++ [name] ≠ spot := fun same => outside (same ▸ List.prefix_rfl)
      have above : ¬ spot <+: way := fun below => outside (below.trans (List.prefix_append way _))
      rw [Place.pruned_down]
      refine .down (ih above) ?_
      rw [Place.lookup_pruned (stands.proper proper) kept, known]
      rfl

theorem startOf_without (path : String) :
    (files.without spot).startOf (place.pruned spot way) path =
      (files.startOf place path).pruned spot (wayOf way path) := by
  rw [FileSystem.startOf, FileSystem.startOf, wayOf]
  split <;> rfl

/-- A path that goes on from a state never comes to the entry at a spot. -/
def Avoids (files : FileSystem) (spot : List String) (state : List String × List String) : Prop :=
  ∀ way part parts, files.Reaches state (way, part :: parts) → way ++ [part] ≠ spot

theorem Avoids.step {state next : List String × List String} (avoids : files.Avoids spot state)
    (step : files.Step state next) : files.Avoids spot next :=
  fun way part parts reaches => avoids way part parts (.head step reaches)

theorem avoids_end : files.Avoids spot (way, []) := by
  intro other part parts reaches
  rcases Relation.ReflTransGen.cases_head reaches with ends | ⟨_, step, _⟩
  · cases ends
  · cases step

theorem avoids_cons {part : String} {parts : List String} (elsewhere : way ++ [part] ≠ spot)
    (further : ∀ next, files.Step (way, part :: parts) next → files.Avoids spot next) :
    files.Avoids spot (way, part :: parts) := by
  intro other next rest reaches
  rcases Relation.ReflTransGen.cases_head reaches with here | ⟨_, step, reaches⟩
  · cases here
    exact elsewhere
  · exact further _ step other next rest reaches

/-- A path from a state ends in the same way in a tree and without the entry at a spot: with the
same failure, or at the same file, or at directories at one place. -/
inductive EndsAlike (files : FileSystem) (spot : List String) (state : List String × List String) :
    Except Failure (Located × Nat) → Except Failure (Located × Nat) → Prop
  | error (failure : Failure) : EndsAlike files spot state (.error failure) (.error failure)
  | file (readable : Bool) (content : ByteArray) (left : Nat)
      (stuck : ∀ way, ¬ (files.without spot).Reaches state (way, [])) :
      EndsAlike files spot state (.ok (.file readable content, left))
        (.ok (.file readable content, left))
  | directory {way : List String} {place : Place} (left : Nat) (stands : files.Stands way place)
      (outside : ¬ spot <+: way) (reaches : (files.without spot).Reaches state (way, [])) :
      EndsAlike files spot state (.ok (.directory place, left))
        (.ok (.directory (place.pruned spot way), left))

theorem EndsAlike.head {state next : List String × List String}
    {first second : Except Failure (Located × Nat)} (step : (files.without spot).Step state next)
    (alike : EndsAlike files spot next first second) : EndsAlike files spot state first second := by
  cases alike with
  | error failure => exact .error failure
  | file readable content left stuck =>
      refine .file readable content left fun way reaches => ?_
      rcases Relation.ReflTransGen.cases_head reaches with rfl | ⟨other, again, further⟩
      · cases step
      · exact stuck way (step.unique again ▸ further)
  | directory left stands outside reaches =>
      exact .directory left stands outside (.head step reaches)

/-- A path that does not come to an entry leads to the same without it. -/
theorem follow_without {links : Nat} {parts : List String} (proper : files.Proper)
    (stands : files.Stands way place) (outside : ¬ spot <+: way)
    (avoids : (files.without spot).Avoids spot (way, parts)) :
    EndsAlike files spot (way, parts) (files.follow links place parts)
      ((files.without spot).follow links (place.pruned spot way) parts) := by
  fun_induction FileSystem.follow files links place parts generalizing way with
  | case1 links place =>
      rw [FileSystem.follow]
      exact .directory links stands outside .refl
  | case2 links place part parts idle ih =>
      rw [FileSystem.follow, if_pos idle]
      exact .head (.idle idle) (ih stands outside (avoids.step (.idle idle)))
  | case3 links place parts idle ih =>
      have above : ¬ spot <+: way.dropLast :=
        fun below => outside (below.trans (List.dropLast_prefix way))
      rw [FileSystem.follow, if_neg idle, if_pos rfl, stands.pruned_up]
      exact .head .up (ih stands.up above (avoids.step .up))
  | case4 links place part parts busy notUp unknown =>
      have same := Place.lookup_pruned (stands.proper proper) (avoids way part parts .refl)
      rw [FileSystem.follow, if_neg busy, if_neg notUp, same, unknown]
      exact .error _
  | case5 links place part parts busy notUp readable entries known ih =>
      have kept := avoids way part parts .refl
      have same := Place.lookup_pruned (stands.proper proper) kept
      have below : ¬ spot <+: way ++ [part] := by
        rw [List.prefix_concat_iff]
        exact not_or.mpr ⟨Ne.symm kept, outside⟩
      rw [known, Option.map_some, Entry.pruned] at same
      have step : (files.without spot).Step (way, part :: parts) (way ++ [part], parts) :=
        .down busy notUp (stands.without proper outside) same
      rw [FileSystem.follow, if_neg busy, if_neg notUp, same]
      have further := ih (stands.down known) below (avoids.step step)
      rw [Place.pruned_down] at further
      exact .head step further
  | case6 links place part busy notUp readable content known =>
      have same := Place.lookup_pruned (stands.proper proper) (avoids way part [] .refl)
      rw [FileSystem.follow, if_neg busy, if_neg notUp, same, known]
      refine .file readable content links fun last reaches => ?_
      rw [known] at same
      rcases Relation.ReflTransGen.cases_head reaches with ends | ⟨next, step, _⟩
      · cases ends
      · exact step.not_at_file busy notUp (stands.without proper outside) same
  | case7 links place part parts busy notUp readable content known more =>
      have same := Place.lookup_pruned (stands.proper proper) (avoids way part parts .refl)
      rw [FileSystem.follow, if_neg busy, if_neg notUp, same, known]
      simp only [Option.map_some, Entry.pruned, if_neg more]
      exact .error .notADirectory
  | case8 place part parts busy notUp target known =>
      have same := Place.lookup_pruned (stands.proper proper) (avoids way part parts .refl)
      rw [FileSystem.follow, if_neg busy, if_neg notUp, same, known]
      exact .error .tooManyLinks
  | case9 place part parts busy notUp target known links ih =>
      have same := Place.lookup_pruned (stands.proper proper) (avoids way part parts .refl)
      rw [known, Option.map_some, Entry.pruned] at same
      · have step : (files.without spot).Step (way, part :: parts)
            (wayOf way target, Path.parts target ++ parts) :=
          .link busy notUp (stands.without proper outside) same
        have start : ¬ spot <+: wayOf way target := by
          rw [wayOf]
          split
          · exact fun below => outside (List.prefix_nil.mp below ▸ List.nil_prefix)
          · exact outside
        rw [FileSystem.follow, if_neg busy, if_neg notUp, same]
        have further := ih (stands.startOf target) start (avoids.step step)
        rw [← startOf_without] at further
        exact .head step further
      · simp

end FileSystem

end EnvAudit
