import EnvAudit.Policy

/-!
# Environments

A finite assignment of values to names of variables.
-/

namespace EnvAudit

/-- The variables of an environment, each name once. -/
structure Environment where
  entries : List (String × String)
  deriving Repr, Inhabited

namespace Environment

def empty : Environment := ⟨[]⟩

/-- The value of a variable. -/
def get? (environment : Environment) (name : String) : Option String :=
  environment.entries.lookup name

/-- Variables with the value of one of them replaced, or with it added at the
end. -/
def insertIn (name value : String) : List (String × String) → List (String × String)
  | [] => [(name, value)]
  | (other, kept) :: entries =>
      if other == name then
        (name, value) :: entries
      else
        (other, kept) :: insertIn name value entries

/-- The environment after a variable has been set. -/
def insert (environment : Environment) (name value : String) : Environment :=
  ⟨insertIn name value environment.entries⟩

/-- The environment after variables have been set in order. -/
def ofList (entries : List (String × String)) : Environment :=
  entries.foldl (fun environment (name, value) => environment.insert name value) empty

def size (environment : Environment) : Nat :=
  environment.entries.length

def isEmpty (environment : Environment) : Bool :=
  environment.entries.isEmpty

/-- The variable counts as set. -/
def isSet (environment : Environment) (name : String) (policy : EmptyValuePolicy) : Bool :=
  match environment.get? name, policy with
  | none, _ => false
  | some value, .missing => value != ""
  | some _, .present => true

theorem lookup_insertIn (name other value : String) (entries : List (String × String)) :
    (insertIn name value entries).lookup other =
      if other = name then some value else entries.lookup other := by
  fun_induction insertIn name value entries with
  | case1 =>
      by_cases same : other = name
      · simp [same]
      · have different : (other == name) = false := by simpa using same
        simp [List.lookup_cons, same, different]
  | case2 first kept entries known =>
      have known := eq_of_beq known
      subst known
      by_cases same : other = first
      · simp [same]
      · have different : (other == first) = false := by simpa using same
        simp [List.lookup_cons, same, different]
  | case3 first kept entries known ih =>
      by_cases same : other = first
      · subst same
        have different : other ≠ name := by simpa using known
        simp [different]
      · have different : (other == first) = false := by simpa using same
        simp [List.lookup_cons, different, ih]

@[simp]
theorem get?_insert (environment : Environment) (name value other : String) :
    (environment.insert name value).get? other =
      if other = name then some value else environment.get? other :=
  lookup_insertIn name other value environment.entries

end Environment

end EnvAudit
