/-!
# Parts of a text

A text is cut at every place where a given character stands.  Joining the
parts with that character gives the text back.
-/

namespace EnvAudit

namespace Text

/-- The runs of characters between the separators; there is always a first. -/
def splitChars (separator : Char) : List Char → List (List Char)
  | [] => [[]]
  | c :: rest =>
      if c = separator then
        [] :: splitChars separator rest
      else
        match splitChars separator rest with
        | [] => [[c]]
        | part :: parts => (c :: part) :: parts

theorem splitChars_ne_nil (separator : Char) (chars : List Char) :
    splitChars separator chars ≠ [] := by
  cases chars with
  | nil => simp [splitChars]
  | cons c rest =>
      rw [splitChars]
      split
      · simp
      · split <;> simp

theorem intercalate_splitChars (separator : Char) (chars : List Char) :
    [separator].intercalate (splitChars separator chars) = chars := by
  induction chars with
  | nil => rfl
  | cons c rest ih =>
      rw [splitChars]
      cases whole : splitChars separator rest with
      | nil => exact absurd whole (splitChars_ne_nil separator rest)
      | cons part parts =>
          rw [whole] at ih
          split
          · rename_i same
            simp only [List.intercalate, List.intersperse_cons_cons, List.flatten_cons] at ih ⊢
            simp [ih, same]
          · cases parts with
            | nil => simpa [List.intercalate] using ih
            | cons next others =>
                simp only [List.intercalate, List.intersperse_cons_cons, List.flatten_cons] at ih ⊢
                simp [← ih]

/-- The parts of a text between the separators. -/
def split (separator : Char) (text : String) : List String :=
  (splitChars separator text.toList).map .ofList

end Text

end EnvAudit
