import EnvAudit.EnvFile.Assignment
import EnvAudit.Proofs.Except

/-!
# Gaps that environment files fill

The assignments of an environment file are taken one by one.  Each gives a value to a variable
that has none, and those behind it see the value.  All together they fill the gaps of the
environment, unless a gap is to be filled with a value that the system does not take.
-/

namespace EnvAudit

namespace Environment

/-- The environment after a variable has been set, unless it has a value. -/
def insertNew (environment : Environment) (name value : String) : Environment :=
  match environment.get? name with
  | some _ => environment
  | none => environment.insert name value

/-- The environment after bindings have been added for what has no value, the
first for each name. -/
def fill (environment : Environment) (bindings : List (String × String)) : Environment :=
  bindings.foldl (fun environment (name, value) => environment.insertNew name value) environment

/-- The environment with its gaps filled: what has a value keeps it, and any other name has the
first value that it is bound to. -/
def FilledBy (environment : Environment) (bindings : List (String × String))
    (filled : Environment) : Prop :=
  ∀ name, filled.get? name = (environment.get? name <|> bindings.lookup name)

theorem get?_insertNew (environment : Environment) (name value other : String) :
    (environment.insertNew name value).get? other =
      (environment.get? other <|> if other = name then some value else none) := by
  unfold insertNew
  split
  · rename_i known
    by_cases same : other = name
    · simp [same, known]
    · simp [same]
  · rename_i unknown
    by_cases same : other = name
    · simp [same, unknown]
    · simp [same]

variable {environment filled : Environment} {bindings : List (String × String)}

theorem filledBy_fill (environment : Environment) (bindings : List (String × String)) :
    environment.FilledBy bindings (environment.fill bindings) := by
  intro name
  induction bindings generalizing environment with
  | nil => simp [fill]
  | cons first others ih =>
      obtain ⟨bound, value⟩ := first
      rw [fill, List.foldl_cons, ← fill, ih, get?_insertNew, List.lookup_cons]
      by_cases same : name = bound
      · cases known : environment.get? name <;> simp [same]
      · have different : (name == bound) = false := by simpa using same
        cases known : environment.get? name <;> simp [same, different]

theorem FilledBy.get? (isFilled : environment.FilledBy bindings filled) {name value : String}
    (known : environment.get? name = some value) : filled.get? name = some value := by
  rw [isFilled, known]
  rfl

/-- What is set stays so. -/
theorem FilledBy.isSet (isFilled : environment.FilledBy bindings filled) {name : String}
    {policy : EmptyValuePolicy} (set : environment.isSet name policy) :
    filled.isSet name policy := by
  unfold Environment.isSet at set ⊢
  cases known : environment.get? name with
  | none => simp [known] at set
  | some value =>
      rw [isFilled.get? known]
      rwa [known] at set

/-- A value that is empty is not set by any assignment. -/
theorem FilledBy.isSet_of_empty (isFilled : environment.FilledBy bindings filled) {name : String}
    (empty : environment.get? name = some "") : filled.isSet name .missing = false := by
  unfold Environment.isSet
  rw [isFilled.get? empty]
  rfl

end Environment

namespace EnvFile

/-- The assignments in lines, if all of them make sense.  Each fills the environment that the
values of later ones refer to. -/
def readLines (environment : Environment) :
    List (Except Fault (List Char)) → Except Fault (List (String × String))
  | [] => .ok []
  | .error fault :: _ => .error fault
  | .ok line :: lines => do
      match ← readLine environment line with
      | none => readLines environment lines
      | some (name, value) =>
          let others ← readLines (environment.insertNew name value) lines
          return (name, value) :: others

/-- The assignments in an environment file, if all of them make sense. -/
def bindings (environment : Environment) (content : ByteArray) :
    Except Fault (List (String × String)) :=
  readLines environment (lines content)

/-- A gap of the environment is to be filled with a value that the system does not take. -/
structure Obstructed (environment : Environment) (bindings : List (String × String))
    (name value : String) : Prop where
  gap : environment.get? name = none
  first : bindings.lookup name = some value
  unsettable : isSettable value = false

variable {environment filled : Environment} {bindings : List (String × String)}
variable {lines : List (Except Fault (List Char))} {name value : String}

/-- Behind an assignment that is taken, the same obstacles are left. -/
theorem obstructed_cons_iff (taken : environment.get? name = none → isSettable value = true)
    {other otherValue : String} :
    Obstructed environment ((name, value) :: bindings) other otherValue ↔
      Obstructed (environment.insertNew name value) bindings other otherValue := by
  by_cases same : other = name
  · subst same
    constructor
    · rintro ⟨gap, first, unsettable⟩
      obtain rfl : value = otherValue := by simpa using first
      exact absurd ((taken gap).symm.trans unsettable) (by decide)
    · rintro ⟨gap, _, _⟩
      rw [Environment.get?_insertNew] at gap
      simp at gap
  · have different : (other == name) = false := by simpa using same
    have kept : (environment.insertNew name value).get? other = environment.get? other := by
      simp [Environment.get?_insertNew, same]
    have behind : ((name, value) :: bindings).lookup other = bindings.lookup other := by
      rw [List.lookup_cons, different]
    constructor
    · rintro ⟨gap, first, unsettable⟩
      exact ⟨kept.trans gap, behind.symm.trans first, unsettable⟩
    · rintro ⟨gap, first, unsettable⟩
      exact ⟨kept.symm.trans gap, behind.trans first, unsettable⟩

theorem assign_of_taken (taken : environment.get? name = none → isSettable value = true) :
    assign environment name value = .ok (environment.insertNew name value) := by
  rw [assign, Environment.insertNew]
  cases known : environment.get? name with
  | none => simp [taken known]
  | some kept => rfl

theorem assign_of_unsettable (gap : environment.get? name = none)
    (unsettable : isSettable value = false) :
    assign environment name value = .error (.unsettable name value) := by
  simp [assign, gap, unsettable]

/-- An assignment is taken, or it is the value for a gap that obstructs it. -/
theorem taken_or_unsettable (environment : Environment) (name value : String) :
    (environment.get? name = none → isSettable value = true) ∨
      environment.get? name = none ∧ isSettable value = false := by
  cases environment.get? name <;> cases isSettable value <;> simp

theorem eq_insertNew_of_assign (assigned : assign environment name value = .ok filled) :
    filled = environment.insertNew name value := by
  rcases taken_or_unsettable environment name value with taken | ⟨gap, unsettable⟩
  · cases (assign_of_taken taken).symm.trans assigned
    rfl
  · cases (assign_of_unsettable gap unsettable).symm.trans assigned

theorem assignLines_of_blank {line : List Char} (read : readLine environment line = .ok none) :
    assignLines environment (.ok line :: lines) = assignLines environment lines := by
  rw [assignLines, read]
  rfl

theorem assignLines_of_assignment {line : List Char}
    (read : readLine environment line = .ok (some (name, value))) :
    assignLines environment (.ok line :: lines) =
      assign environment name value >>= fun environment => assignLines environment lines := by
  rw [assignLines, read]
  rfl

/-- Lines whose assignments make sense fill the gaps of the environment, unless one of the
assignments is obstructed. -/
theorem assignLines_of_readLines (known : readLines environment lines = .ok bindings) :
    ((∀ name value, ¬ Obstructed environment bindings name value) ∧
      assignLines environment lines = .ok (environment.fill bindings)) ∨
    ∃ name value, Obstructed environment bindings name value ∧
      assignLines environment lines = .error (.unsettable name value) := by
  induction lines generalizing environment bindings with
  | nil =>
      cases known
      refine .inl ⟨?_, rfl⟩
      rintro name value ⟨_, ⟨⟩, _⟩
  | cons line lines ih =>
      cases line with
      | error fault => cases known
      | ok line =>
          obtain ⟨assignment, read, known⟩ := bind_eq_ok_iff.mp known
          cases assignment with
          | none =>
              rw [assignLines_of_blank read]
              exact ih known
          | some assignment =>
              obtain ⟨name, value⟩ := assignment
              obtain ⟨others, rest, ⟨⟩⟩ := bind_eq_ok_iff.mp known
              rw [assignLines_of_assignment read]
              rcases taken_or_unsettable environment name value with taken | ⟨gap, unsettable⟩
              · rw [assign_of_taken taken]
                simp only [obstructed_cons_iff taken]
                exact ih rest
              · refine .inr ⟨name, value, ⟨gap, by simp, unsettable⟩, ?_⟩
                rw [assign_of_unsettable gap unsettable]
                rfl

/-- Where lines have filled an environment, all of their assignments make sense. -/
theorem readLines_of_assignLines (ends : assignLines environment lines = .ok filled) :
    ∃ bindings, readLines environment lines = .ok bindings ∧
      filled = environment.fill bindings := by
  induction lines generalizing environment with
  | nil =>
      cases ends
      exact ⟨[], rfl, rfl⟩
  | cons line lines ih =>
      cases line with
      | error fault => cases ends
      | ok line =>
          obtain ⟨assignment, read, ends⟩ := bind_eq_ok_iff.mp ends
          cases assignment with
          | none =>
              obtain ⟨bindings, known, rfl⟩ := ih ends
              exact ⟨bindings, bind_eq_ok_iff.mpr ⟨none, read, known⟩, rfl⟩
          | some assignment =>
              obtain ⟨name, value⟩ := assignment
              obtain ⟨after, assigned, ends⟩ := bind_eq_ok_iff.mp ends
              obtain rfl := eq_insertNew_of_assign assigned
              obtain ⟨bindings, known, rfl⟩ := ih ends
              exact ⟨(name, value) :: bindings, bind_eq_ok_iff.mpr ⟨some (name, value), read,
                bind_eq_ok_iff.mpr ⟨bindings, known, rfl⟩⟩, rfl⟩

theorem readValue_ne_unsettable (chars : List Char) :
    readValue environment chars ≠ .error (.unsettable name value) := by
  intro fails
  rw [readValue] at fails
  split at fails
  · cases fails
  · split at fails <;> cases fails

theorem readLine_ne_unsettable (line : List Char) :
    readLine environment line ≠ .error (.unsettable name value) := by
  intro fails
  simp only [readLine] at fails
  split at fails
  · cases fails
  · split at fails
    · cases fails
    · split at fails
      · cases fails
      · rename_i target behind _ _
        cases read : readValue environment behind.skipBlanks.chars with
        | ok _ =>
            rw [read] at fails
            cases fails
        | error fault =>
            rw [read] at fails
            cases fails
            exact readValue_ne_unsettable _ read

/-- No line is faulty because of what it assigns. -/
theorem mem_joinLines_ne_unsettable {openness : Openness} {before : List Char}
    {pieces : List (List UInt8)} :
    .error (.unsettable name value) ∉ joinLines openness before pieces := by
  fun_induction joinLines openness before pieces with
  | case1 => simp
  | case2 => simp
  | case3 => simp
  | case4 => simp_all
  | case5 => simp_all
  | case6 => simp_all
  | case7 => simp_all

/-- What obstructs the assignments is a value for a gap. -/
theorem gap_of_assignLines (regular : .error (.unsettable name value) ∉ lines)
    (fails : assignLines environment lines = .error (.unsettable name value)) :
    environment.get? name = none ∧ isSettable value = false := by
  induction lines generalizing environment with
  | nil => cases fails
  | cons line lines ih =>
      rw [List.mem_cons, not_or] at regular
      cases line with
      | error fault =>
          cases fails
          exact absurd rfl regular.1
      | ok line =>
          cases read : readLine environment line with
          | error fault =>
              rw [assignLines, read] at fails
              cases fails
              exact absurd read (readLine_ne_unsettable line)
          | ok assignment =>
              cases assignment with
              | none =>
                  rw [assignLines_of_blank read] at fails
                  exact ih regular.2 fails
              | some assignment =>
                  obtain ⟨bound, given⟩ := assignment
                  rw [assignLines_of_assignment read] at fails
                  rcases taken_or_unsettable environment bound given with
                    taken | ⟨gap, unsettable⟩
                  · rw [assign_of_taken taken] at fails
                    obtain ⟨gap, unsettable⟩ := ih regular.2 fails
                    rw [Environment.get?_insertNew] at gap
                    simp only [Option.orElse_eq_orElse, Option.orElse_eq_or,
                      Option.or_eq_none_iff] at gap
                    exact ⟨gap.1, unsettable⟩
                  · rw [assign_of_unsettable gap unsettable] at fails
                    cases fails
                    exact ⟨gap, unsettable⟩

variable {files : FileSystem} {path : String} {content : ByteArray}

/-- A file whose assignments make sense is loaded, unless one of them is obstructed. -/
theorem load_of_bindings (read : files.read path = .ok content)
    (known : EnvFile.bindings environment content = .ok bindings) :
    ((∀ name value, ¬ Obstructed environment bindings name value) ∧
      load files path environment = .ok (environment.fill bindings)) ∨
    ∃ name value, Obstructed environment bindings name value ∧
      load files path environment = .error (.unsettable name value) := by
  have loads : load files path environment = assignLines environment (lines content) := by
    rw [load, read]
    rfl
  rw [loads]
  exact assignLines_of_readLines known

/-- A load that a value obstructs was to fill a gap with it. -/
theorem gap_of_load (fails : load files path environment = .error (.unsettable name value)) :
    environment.get? name = none ∧ isSettable value = false := by
  cases read : files.read path with
  | error failure =>
      rw [load, read] at fails
      cases fails
  | ok content =>
      rw [load, read] at fails
      exact gap_of_assignLines mem_joinLines_ne_unsettable fails

theorem load_eq_ok (loaded : load files path environment = .ok filled) :
    ∃ content bindings, files.read path = .ok content ∧
      EnvFile.bindings environment content = .ok bindings ∧
      filled = environment.fill bindings := by
  obtain ⟨content, read, ends⟩ := bind_eq_ok_iff.mp loaded
  obtain ⟨bindings, known, filling⟩ := readLines_of_assignLines ends
  exact ⟨content, bindings, mapError_eq_ok_iff.mp read, known, filling⟩

end EnvFile

end EnvAudit
