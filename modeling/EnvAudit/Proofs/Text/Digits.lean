import Mathlib.Data.List.Basic
import Mathlib.Tactic.IntervalCases

/-!
# Digits

The decimal digits of a number begin with no zero, unless the number is zero.
-/

namespace EnvAudit

namespace Text

/-- Only zero has a zero in front. -/
theorem eq_zero_of_head?_toDigits (value : Nat) :
    (Nat.toDigits 10 value).head? = some '0' → value = 0 := by
  induction value using Nat.strongRecOn with
  | _ value ih =>
      intro zero
      rcases Nat.lt_or_ge value 10 with small | large
      · rw [Nat.toDigits_of_lt_base small, List.head?_cons, Option.some_inj] at zero
        interval_cases value <;> first | rfl | exact absurd zero (by decide)
      · rw [Nat.toDigits_of_base_le (by decide) large,
          List.head?_append_of_ne_nil _ Nat.toDigits_ne_nil] at zero
        have := ih (value / 10) (Nat.div_lt_self (by omega) (by decide)) zero
        omega

end Text

end EnvAudit
