import EnvAudit.Findings
import Mathlib.Data.List.Induction

/-!
# First mentions

Findings keep the first mention of each name.  Whatever the names of earlier
mentions, the place that is kept for a name is that of the first mention of it, and
the names are kept in the order of their first mentions.

The names and the places are kept apart.  They agree in the beginning, and whatever is added
to findings that agree leaves them so: this is `Findings.Consistent`.
-/

namespace EnvAudit

namespace Findings

/-- A reference as findings keep it: its name with its place in the file. -/
def mention (file : Option String) (reference : Reference) : String × Location :=
  (reference.name, locate file reference)

/-- Adds a mention, unless its name is known. -/
def remember (seen : List (String × Location)) (mention : String × Location) :
    List (String × Location) :=
  match seen.lookup mention.1 with
  | some _ => seen
  | none => seen ++ [mention]

/-- The first of the mentions of each name. -/
def firstMentions (mentions : List (String × Location)) : List (String × Location) :=
  mentions.foldl remember []

theorem firstMentions_concat (mentions : List (String × Location)) (last : String × Location) :
    firstMentions (mentions ++ [last]) = remember (firstMentions mentions) last := by
  simp [firstMentions]

theorem lookup_remember (seen : List (String × Location)) (mention : String × Location)
    (name : String) :
    (remember seen mention).lookup name = (seen ++ [mention]).lookup name := by
  rw [remember]
  split
  · rename_i location known
    rw [List.lookup_append]
    by_cases same : name = mention.1
    · rw [same, known]
      rfl
    · have other : (name == mention.1) = false := by simpa using same
      rw [List.lookup_cons, other]
      simp
  · rfl

/-- Names keep the places that they have, and get that of their first mention. -/
theorem lookup_foldl_remember (seen mentions : List (String × Location)) (name : String) :
    (mentions.foldl remember seen).lookup name = (seen ++ mentions).lookup name := by
  induction mentions generalizing seen with
  | nil => simp
  | cons first others ih =>
      rw [List.foldl_cons, ih, List.lookup_append, lookup_remember, ← List.lookup_append,
        List.append_assoc, List.singleton_append]

/-- The place that is kept for a name is that of the first mention of it. -/
theorem lookup_firstMentions (mentions : List (String × Location)) (name : String) :
    (firstMentions mentions).lookup name = mentions.lookup name :=
  lookup_foldl_remember [] mentions name

theorem mem_names_iff_lookup {mentions : List (String × Location)} {name : String} :
    name ∈ mentions.map Prod.fst ↔ (mentions.lookup name).isSome := by
  simp [List.lookup_isSome_iff]

/-- The names are kept in the order of their first mentions. -/
theorem names_firstMentions (mentions : List (String × Location)) :
    (firstMentions mentions).map Prod.fst = (mentions.map Prod.fst).eraseDups := by
  -- From the end, since the mentions before one decide whether it is kept.
  induction mentions using List.reverseRecOn with
  | nil => rfl
  | append_singleton mentions last ih =>
      rw [firstMentions_concat, remember, lookup_firstMentions, List.map_append,
        List.eraseDups_append, ← ih]
      split
      · rename_i location known
        have member : last.1 ∈ mentions.map Prod.fst := by simp [mem_names_iff_lookup, known]
        simp [member, List.cons_removeAll]
      · rename_i unknown
        have fresh : last.1 ∉ mentions.map Prod.fst := by simp [mem_names_iff_lookup, unknown]
        simp [fresh, List.cons_removeAll, List.eraseDups_cons]

/-- No name is kept twice. -/
theorem nodup_firstMentions (mentions : List (String × Location)) :
    ((firstMentions mentions).map Prod.fst).Nodup := by
  induction mentions using List.reverseRecOn with
  | nil => exact List.nodup_nil
  | append_singleton mentions last ih =>
      rw [firstMentions_concat, remember]
      split
      · exact ih
      · rename_i unknown
        have fresh : last.1 ∉ (firstMentions mentions).map Prod.fst := by
          simp [mem_names_iff_lookup, unknown]
        rw [List.map_append, List.map_singleton, List.nodup_append]
        refine ⟨ih, by simp, ?_⟩
        rintro name known other inLast rfl
        exact fresh (List.mem_singleton.mp inLast ▸ known)

theorem place_of_unknown {seen : List (String × Location)} {name : String}
    (unknown : seen.lookup name = none) (location : Location) :
    place seen name location = seen ++ [(name, location)] := by
  have others : ∀ entry ∈ seen, (entry.1 != name) = true := by
    intro entry member
    have fresh : name ∉ seen.map Prod.fst := by simp [mem_names_iff_lookup, unknown]
    simp only [bne_iff_ne]
    rintro rfl
    exact fresh (List.mem_map_of_mem member)
  rw [place, List.filter_eq_self.mpr others]

theorem firstSeen_addReference (findings : Findings) (file : Option String)
    (reference : Reference) :
    (findings.addReference file reference).firstSeen =
      remember findings.firstSeen (mention file reference) := by
  rw [addReference, remember, mention]
  split
  · rename_i location known
    rw [known]
  · rename_i unknown
    rw [unknown, ← place_of_unknown unknown]

theorem skipped_addReference (findings : Findings) (file : Option String)
    (reference : Reference) :
    (findings.addReference file reference).skipped = findings.skipped := by
  rw [addReference]
  split <;> rfl

/-- The names and the places agree: each name is listed once, in the order in which the places
have been put down. -/
structure Consistent (findings : Findings) : Prop where
  distinct : findings.names.Nodup
  order : findings.firstSeen.map Prod.fst = findings.names

namespace Consistent

variable {findings : Findings}

theorem start (records : List SkippedFile) : Consistent { skipped := records } where
  distinct := List.nodup_nil
  order := rfl

/-- The names that are listed are those that have a place. -/
theorem mem_names_iff (consistent : findings.Consistent) {name : String} :
    name ∈ findings.names ↔ (findings.firstSeen.lookup name).isSome := by
  rw [← consistent.order, mem_names_iff_lookup]

theorem addReference (consistent : findings.Consistent) (file : Option String)
    (reference : Reference) : (findings.addReference file reference).Consistent := by
  rw [Findings.addReference]
  split
  · exact consistent
  · rename_i unknown
    have fresh : reference.name ∉ findings.names := by
      rw [consistent.mem_names_iff, unknown]
      exact Bool.false_ne_true
    refine ⟨List.nodup_append.mpr ⟨consistent.distinct, by simp, ?_⟩, ?_⟩
    · rintro name known other added rfl
      exact fresh (List.mem_singleton.mp added ▸ known)
    · simp only [place_of_unknown unknown, List.map_append, List.map_singleton, consistent.order]

theorem skip (consistent : findings.Consistent) (path reason : String) :
    (findings.skip path reason).Consistent where
  distinct := consistent.distinct
  order := consistent.order

end Consistent

theorem mem_names_addReference {findings : Findings} (consistent : findings.Consistent)
    (file : Option String) (reference : Reference) (name : String) :
    name ∈ (findings.addReference file reference).names ↔
      name ∈ findings.names ∨ name = reference.name := by
  rw [addReference]
  split
  · rename_i location known
    have listed : reference.name ∈ findings.names := by
      rw [consistent.mem_names_iff, known]
      rfl
    exact ⟨.inl, fun either => either.elim id (· ▸ listed)⟩
  · simp

/-- What is known after references of a file have been merged: the names that have come up in
the file, each once, and all mentions with those from before. -/
structure Merged (file : Option String) (before : Findings) (references : List Reference)
    (state : List String × Findings) : Prop where
  distinct : state.1.Nodup
  names : ∀ name, name ∈ state.1 ↔ name ∈ references.map Reference.name
  seen : state.2.firstSeen = (references.map (mention file)).foldl remember before.firstSeen
  skipped : state.2.skipped = before.skipped

namespace Merged

variable {file : Option String} {before : Findings}
variable {references : List Reference} {state : List String × Findings}

theorem start (file : Option String) (before : Findings) :
    Merged file before [] ([], before) where
  distinct := List.nodup_nil
  names := by simp
  seen := rfl
  skipped := rfl

/-- A name that has come up in the file has a place already. -/
theorem remember_eq_self (merged : Merged file before references state) {reference : Reference}
    (known : reference.name ∈ state.1) :
    remember state.2.firstSeen (mention file reference) = state.2.firstSeen := by
  have mentioned : reference.name ∈ (references.map (mention file)).map Prod.fst := by
    rw [List.map_map]
    exact (merged.names _).mp known
  have placed : (state.2.firstSeen.lookup reference.name).isSome := by
    rw [merged.seen, lookup_foldl_remember, ← mem_names_iff_lookup, List.map_append]
    exact List.mem_append_right _ mentioned
  obtain ⟨location, found⟩ := Option.isSome_iff_exists.mp placed
  simp only [remember, mention, found]

theorem step (merged : Merged file before references state) (reference : Reference) :
    Merged file before (references ++ [reference]) (mergeReference file state reference) := by
  have seen : ((references ++ [reference]).map (mention file)).foldl remember before.firstSeen =
      remember state.2.firstSeen (mention file reference) := by
    rw [List.map_append, List.foldl_append, ← merged.seen]
    rfl
  rw [mergeReference]
  split
  · rename_i known
    rw [List.contains_iff_mem] at known
    refine ⟨merged.distinct, fun name => ?_, by rw [seen, merged.remember_eq_self known],
      merged.skipped⟩
    have again : name = reference.name → name ∈ state.1 := fun same => same ▸ known
    rw [List.map_append, List.mem_append, ← merged.names, List.map_singleton, List.mem_singleton]
    exact ⟨.inl, fun either => either.elim id again⟩
  · rename_i fresh
    rw [List.contains_iff_mem] at fresh
    refine ⟨List.nodup_cons.mpr ⟨fresh, merged.distinct⟩, fun name => ?_,
      (firstSeen_addReference _ _ _).trans seen.symm,
      (skipped_addReference _ _ _).trans merged.skipped⟩
    rw [List.mem_cons, List.map_append, List.mem_append, merged.names, or_comm]
    simp

end Merged

theorem merged (file : Option String) (before : Findings) (references : List Reference) :
    Merged file before references (references.foldl (mergeReference file) ([], before)) := by
  induction references using List.reverseRecOn with
  | nil => exact .start file before
  | append_singleton references last ih =>
      rw [List.foldl_append]
      exact ih.step last

theorem firstSeen_addReferences (findings : Findings) (file : Option String)
    (references : List Reference) :
    (findings.addReferences file references).1.firstSeen =
      (references.map (mention file)).foldl remember findings.firstSeen :=
  (merged file findings references).seen

theorem skipped_addReferences (findings : Findings) (file : Option String)
    (references : List Reference) :
    (findings.addReferences file references).1.skipped = findings.skipped :=
  (merged file findings references).skipped

/-- While references of a file are merged, the names and the places agree, and the names that
have come up in the file are listed. -/
structure Consistent.Merging (state : List String × Findings) : Prop where
  consistent : state.2.Consistent
  listed : ∀ name ∈ state.1, name ∈ state.2.names

namespace Consistent.Merging

variable {state : List String × Findings}

theorem step (merging : Merging state) (file : Option String) (reference : Reference) :
    Merging (mergeReference file state reference) := by
  rw [mergeReference]
  split
  · exact merging
  · refine ⟨merging.consistent.addReference file reference, ?_⟩
    intro name noted
    rw [mem_names_addReference merging.consistent]
    cases noted with
    | head => exact .inr rfl
    | tail _ earlier => exact .inl (merging.listed name earlier)

theorem run (merging : Merging state) (file : Option String) (references : List Reference) :
    Merging (references.foldl (mergeReference file) state) := by
  induction references generalizing state with
  | nil => exact merging
  | cons first others ih => exact ih (merging.step file first)

end Consistent.Merging

theorem Consistent.addReferences {findings : Findings} (consistent : findings.Consistent)
    (file : Option String) (references : List Reference) :
    (findings.addReferences file references).1.Consistent :=
  have start : Consistent.Merging ([], findings) := ⟨consistent, by simp⟩
  (start.run file references).consistent

end Findings

end EnvAudit
