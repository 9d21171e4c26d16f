import EnvAudit.Parsing.Source
import Mathlib.Data.Prod.Lex

/-!
# Lines and columns

The lines of a text begin at ascending bytes, the first one at the first byte.  So the line that
holds a byte is the last that begins at it or before it, and a later byte has a later line, or a
later column in the same line.
-/

namespace EnvAudit

/-- Each value of an array is greater than those before it. -/
def Ascending (values : Array Nat) : Prop :=
  ∀ i j, i < j → j < values.size → values.getD i 0 < values.getD j 0

section Push

variable {values : Array Nat} {last i : Nat}

theorem getD_push_of_lt (inside : i < values.size) :
    (values.push last).getD i 0 = values.getD i 0 := by
  simp [Array.getD_eq_getD_getElem?, Array.getElem?_push, Nat.ne_of_lt inside]

theorem getD_push_size : (values.push last).getD values.size 0 = last := by
  simp

end Push

namespace Ascending

variable {values : Array Nat}

theorem push (ascending : Ascending values) {last : Nat}
    (greater : ∀ i < values.size, values.getD i 0 < last) : Ascending (values.push last) := by
  intro i j less inside
  rw [Array.size_push] at inside
  rw [getD_push_of_lt (by omega)]
  rcases Nat.lt_or_eq_of_le (Nat.le_of_lt_succ inside) with before | rfl
  · rw [getD_push_of_lt before]
    exact ascending i j less before
  · rw [getD_push_size]
    exact greater i less

theorem le_getD (ascending : Ascending values) {i : Nat} (inside : i < values.size) :
    i ≤ values.getD i 0 := by
  induction i with
  | zero => exact Nat.zero_le _
  | succ i ih =>
      have before := ih (by omega)
      have greater := ascending i (i + 1) (by omega) inside
      omega

/-- The search by halving counts the values up to the limit, which come first. -/
theorem countAtMost_spec (ascending : Ascending values) {limit low high : Nat}
    (ordered : low ≤ high) (inside : high ≤ values.size)
    (atMost : ∀ i < low, values.getD i 0 ≤ limit)
    (above : ∀ i, high ≤ i → i < values.size → limit < values.getD i 0) :
    (∀ i < countAtMost values limit low high, values.getD i 0 ≤ limit) ∧
      ∀ i, countAtMost values limit low high ≤ i → i < values.size → limit < values.getD i 0 := by
  fun_induction countAtMost values limit low high with
  | case1 low high less middle small ih =>
      refine ih (by omega) inside (fun i before => ?_) above
      rcases Nat.lt_or_eq_of_le (Nat.le_of_lt_succ before) with strictly | rfl
      · exact Nat.le_trans (Nat.le_of_lt (ascending i middle strictly (by omega))) small
      · exact small
  | case2 low high less middle large ih =>
      refine ih (by omega) (by omega) atMost fun i behind within => ?_
      have atMiddle : limit < values.getD middle 0 := by omega
      rcases Nat.lt_or_eq_of_le behind with strictly | rfl
      · exact Nat.lt_trans atMiddle (ascending middle i strictly within)
      · exact atMiddle
  | case3 low high done =>
      obtain rfl : low = high := by omega
      exact ⟨atMost, above⟩

end Ascending

/-- A place with its line before its column. -/
def Point.place (point : Point) : ℕ ×ₗ ℕ :=
  toLex (point.row, point.column)

namespace Source

/-- Lines begin at ascending bytes up to the last one, and the first line at the first byte. -/
structure Rules (starts : Array Nat) (last : Nat) : Prop where
  nonempty : 0 < starts.size
  first : starts.getD 0 0 = 0
  ascending : Ascending starts
  atMost : ∀ i < starts.size, starts.getD i 0 ≤ last

namespace Rules

variable {starts : Array Nat} {last next : Nat}

theorem mono (rules : Rules starts last) (less : last ≤ next) : Rules starts next where
  nonempty := rules.nonempty
  first := rules.first
  ascending := rules.ascending
  atMost := fun i inside => Nat.le_trans (rules.atMost i inside) less

theorem push (rules : Rules starts last) (less : last < next) : Rules (starts.push next) next where
  nonempty := by simp
  first := (getD_push_of_lt rules.nonempty).trans rules.first
  ascending := rules.ascending.push fun i inside => Nat.lt_of_le_of_lt (rules.atMost i inside) less
  atMost := by
    intro i inside
    rw [Array.size_push] at inside
    rcases Nat.lt_or_eq_of_le (Nat.le_of_lt_succ inside) with before | rfl
    · rw [getD_push_of_lt before]
      exact Nat.le_trans (rules.atMost i before) (Nat.le_of_lt less)
    · rw [getD_push_size]

end Rules

theorem exists_rules_lineStartsFrom (text : String) {i : Nat} {found : Array Nat}
    (rules : Rules found i) : ∃ last, Rules (lineStartsFrom text i found) last := by
  fun_induction lineStartsFrom text i found with
  | case1 i found inside c next ih =>
      have further : i < next := Nat.lt_add_of_pos_right (Char.utf8Size_pos c)
      refine ih ?_
      split
      · exact rules.push further
      · exact rules.mono (Nat.le_of_lt further)
  | case2 i found outside => exact ⟨i, rules⟩

theorem exists_rules_ofText (text : String) : ∃ last, Rules (ofText text).lineStarts last := by
  refine exists_rules_lineStartsFrom text ⟨by simp, by simp, fun i j less inside => ?_, by simp⟩
  simp only [List.size_toArray, List.length_cons, List.length_nil] at inside
  omega

/-- The line that holds a byte begins at it or before it, and the lines after it begin behind. -/
structure Holds (source : Source) (row byte : Nat) : Prop where
  inside : row < source.lineStarts.size
  begins : source.lineStarts.getD row 0 ≤ byte
  others : ∀ i, row < i → i < source.lineStarts.size → byte < source.lineStarts.getD i 0

variable (text : String)

theorem holds_row (byte : Nat) : (ofText text).Holds ((ofText text).row byte) byte := by
  obtain ⟨last, rules⟩ := exists_rules_ofText text
  have none : ∀ i < 0, (ofText text).lineStarts.getD i 0 ≤ byte := by simp
  obtain ⟨atMost, above⟩ := rules.ascending.countAtMost_spec (Nat.zero_le _) (Nat.le_refl _) none
    (by omega)
  have bound : countAtMost (ofText text).lineStarts byte 0 (ofText text).lineStarts.size ≤
      (ofText text).lineStarts.size := (countAtMost_le (Nat.zero_le _)).2
  have nonempty := rules.nonempty
  have positive :
      0 < countAtMost (ofText text).lineStarts byte 0 (ofText text).lineStarts.size := by
    by_contra none
    have first := above 0 (by omega) nonempty
    rw [rules.first] at first
    omega
  rw [row]
  exact ⟨by omega, atMost _ (by omega), fun i behind within => above i (by omega) within⟩

theorem row_le (byte : Nat) : (ofText text).row byte ≤ byte := by
  obtain ⟨last, rules⟩ := exists_rules_ofText text
  have held := holds_row text byte
  exact Nat.le_trans (rules.ascending.le_getD held.inside) held.begins

/-- A later byte stands in a later line, or behind in the same line. -/
theorem place_point_lt {first second : Nat} (less : first < second) :
    ((ofText text).point first).place < ((ofText text).point second).place := by
  have held := holds_row text first
  have heldLater := holds_row text second
  rw [Point.place, Point.place, Prod.Lex.toLex_lt_toLex]
  simp only [point]
  rcases Nat.lt_trichotomy ((ofText text).row first) ((ofText text).row second) with
    before | same | behind
  · exact .inl before
  · refine .inr ⟨same, ?_⟩
    have begins := held.begins
    rw [← same]
    omega
  · have := heldLater.others _ behind held.inside
    have := held.begins
    omega

end Source

end EnvAudit
