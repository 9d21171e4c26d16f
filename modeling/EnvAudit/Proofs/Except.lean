/-!
# Computations that can fail

A computation made up of others succeeds if those succeed that it is made up of.
-/

namespace EnvAudit

variable {ε α β : Type}

/-- A computation with a continuation succeeds if both do. -/
theorem bind_eq_ok_iff {first : Except ε α} {next : α → Except ε β} {result : β} :
    (first >>= next) = .ok result ↔ ∃ value, first = .ok value ∧ next value = .ok result := by
  cases first with
  | error error => simp [bind, Except.bind]
  | ok value => simp [bind, Except.bind]

/-- A computation with a continuation fails where one of them does. -/
theorem bind_eq_error_iff {first : Except ε α} {next : α → Except ε β} {error : ε} :
    (first >>= next) = .error error ↔
      first = .error error ∨ ∃ value, first = .ok value ∧ next value = .error error := by
  cases first with
  | error other => simp [bind, Except.bind]
  | ok value => simp [bind, Except.bind]

theorem mapError_eq_ok_iff {ε' : Type} {first : Except ε α} {change : ε → ε'} {result : α} :
    first.mapError change = .ok result ↔ first = .ok result := by
  cases first with
  | error error =>
      constructor
      · rintro ⟨⟩
      · rintro ⟨⟩
  | ok value =>
      constructor
      · rintro ⟨⟩
        rfl
      · rintro ⟨⟩
        rfl

/-- A computation on what may be absent succeeds if there is nothing, or if it succeeds on what
there is. -/
theorem mapM_eq_ok_iff {read : α → Except ε β} {given : Option α} {result : Option β} :
    given.mapM read = .ok result ↔
      Option.Rel (fun value meaning => read value = .ok meaning) given result := by
  cases given with
  | none =>
      constructor
      · rintro ⟨⟩
        exact .none
      · rintro ⟨⟩
        rfl
  | some value =>
      rw [Option.mapM_some, ← bind_pure_comp, bind_eq_ok_iff]
      constructor
      · rintro ⟨meaning, means, ⟨⟩⟩
        exact .some means
      · rintro (means | _)
        exact ⟨_, means, rfl⟩

/-- Two computations fail in related ways or give related results. -/
inductive Paired {α' β' : Type} (failing : ε → ε → Prop) (giving : α' → β' → Prop) :
    Except ε α' → Except ε β' → Prop
  | error {first second : ε} (related : failing first second) :
      Paired failing giving (.error first) (.error second)
  | ok {first : α'} {second : β'} (related : giving first second) :
      Paired failing giving (.ok first) (.ok second)

/-- Computations that go on in related ways end in related ways. -/
theorem Paired.bind {α' β' : Type} {failing : ε → ε → Prop} {giving : α → β → Prop}
    {ending : α' → β' → Prop} {first : Except ε α} {second : Except ε β}
    {next : α → Except ε α'} {otherNext : β → Except ε β'}
    (paired : Paired failing giving first second)
    (further : ∀ value other, giving value other →
      Paired failing ending (next value) (otherNext other)) :
    Paired failing ending (first >>= next) (second >>= otherNext) := by
  cases paired with
  | error related => exact .error related
  | ok related => exact further _ _ related

end EnvAudit
