/-!
# Likeness of texts

How alike two texts are: one where they are equal and zero where they have
nothing in common.  Characters are common if they stand at places that are not
too far apart.  `closest?` finds the text that is most like a given one.
-/

namespace EnvAudit

namespace Text

namespace Likeness

/-- Marks the first free place from `low` on and before `high` that holds the
character; the first place has the number `index`. -/
def take? (c : Char) (low high : Nat) : Nat → List (Char × Bool) → Option (List (Char × Bool))
  | _, [] => none
  | index, (other, taken) :: places =>
      if low ≤ index && index < high && other == c && !taken then
        some ((other, true) :: places)
      else
        (take? c low high (index + 1) places).map ((other, taken) :: ·)

/-- The characters from number `index` on that have a partner among the places
that are at most `reach` away, in order, and the places after that. -/
def pair (reach : Nat) : Nat → List Char → List (Char × Bool) → List Char × List (Char × Bool)
  | _, [], places => ([], places)
  | index, c :: chars, places =>
      match take? c (index - reach) (index + reach + 1) 0 places with
      | none => pair reach (index + 1) chars places
      | some places =>
          let (common, places) := pair reach (index + 1) chars places
          (c :: common, places)

/-- The common characters in the orders of both texts. -/
def common (first second : List Char) : List Char × List Char :=
  let reach := max first.length second.length / 2 - 1
  let (ordered, places) := pair reach 0 first (second.map (·, false))
  (ordered, (places.filter (·.2)).map (·.1))

/-- The mean of three shares: that of common characters in either text, and that
of common characters in the same order. -/
def degree (first second : List Char) : Float :=
  let (common, others) := common first second
  if first.isEmpty && second.isEmpty then
    1
  else if common.isEmpty then
    0
  else
    let moved := ((common.zip others).filter fun (c, other) => c ≠ other).length / 2
    let count := common.length.toFloat
    (count / first.length.toFloat + count / second.length.toFloat +
      (common.length - moved).toFloat / count) / 3

/-- Texts that are less alike are not worth mentioning. -/
def threshold : Float := 0.7

end Likeness

/-- The text among the candidates that is most like the given one, the last
among equals, if it is like it at all. -/
def closest? (text : String) (candidates : List String) : Option String :=
  (candidates.foldl (fun best candidate =>
    let degree := Likeness.degree text.toList candidate.toList
    match best with
    | none => if Likeness.threshold < degree then some (degree, candidate) else none
    | some (highest, kept) =>
        if highest ≤ degree then some (degree, candidate) else some (highest, kept))
    none).map (·.2)

end Text

end EnvAudit
