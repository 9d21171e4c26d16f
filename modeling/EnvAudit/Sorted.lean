/-!
# Search in ascending arrays

`countAtMost` finds by halving how many values of an ascending array are at
most a given limit.
-/

namespace EnvAudit

/-- The number of values at most `limit` among the first `high`, given that the
first `low` of the ascending array are. -/
def countAtMost (values : Array Nat) (limit low high : Nat) : Nat :=
  if low < high then
    let middle := (low + high) / 2
    if values.getD middle 0 ≤ limit then
      countAtMost values limit (middle + 1) high
    else
      countAtMost values limit low middle
  else
    low
termination_by high - low

theorem countAtMost_le {values : Array Nat} {limit low high : Nat} (ordered : low ≤ high) :
    low ≤ countAtMost values limit low high ∧ countAtMost values limit low high ≤ high := by
  fun_induction countAtMost values limit low high with
  | case1 low high inside middle atMost ih =>
      have := ih (by omega)
      omega
  | case2 low high inside middle atMost ih =>
      have := ih (by omega)
      omega
  | case3 low high outside => omega

end EnvAudit
