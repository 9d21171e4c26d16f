import Mathlib.Data.List.TakeWhile

/-!
# Stretches of characters

A stretch of characters that pass a test ends where a character fails it.
-/

namespace EnvAudit

namespace Text

variable {test : Char → Bool} {text rest : List Char} {c : Char}

/-- No character that passes the test stands in front. -/
def Stops (test : Char → Bool) (rest : List Char) : Prop :=
  ∀ c ∈ rest.head?, test c = false

theorem stops_nil (test : Char → Bool) : Stops test [] := by
  rintro _ ⟨⟩

theorem stops_cons (fails : test c = false) (rest : List Char) : Stops test (c :: rest) := by
  rintro _ ⟨⟩
  exact fails

theorem Stops.takeWhile (stops : Stops test rest) : rest.takeWhile test = [] := by
  cases rest with
  | nil => rfl
  | cons c rest => exact List.takeWhile_cons_of_neg (by simp [stops c rfl])

theorem Stops.dropWhile (stops : Stops test rest) : rest.dropWhile test = rest := by
  cases rest with
  | nil => rfl
  | cons c rest => exact List.dropWhile_cons_of_neg (by simp [stops c rfl])

theorem Stops.takeWhile_append (stops : Stops test rest) (passes : ∀ c ∈ text, test c = true) :
    (text ++ rest).takeWhile test = text := by
  rw [List.takeWhile_append_of_pos passes, stops.takeWhile, List.append_nil]

theorem Stops.dropWhile_append (stops : Stops test rest) (passes : ∀ c ∈ text, test c = true) :
    (text ++ rest).dropWhile test = rest := by
  rw [List.dropWhile_append_of_pos passes, stops.dropWhile]

theorem stops_dropWhile (text : List Char) : Stops test (text.dropWhile test) := by
  induction text with
  | nil => exact stops_nil test
  | cons c text ih =>
      cases passes : test c with
      | true => rwa [List.dropWhile_cons_of_pos passes]
      | false =>
          rw [List.dropWhile_cons_of_neg (by simp [passes])]
          exact stops_cons passes text

end Text

end EnvAudit
