import EnvAudit.Proofs.Text.Digits
import EnvAudit.Proofs.Toml.Readers
import EnvAudit.Toml.Value

/-!
# Written numbers

A number is read as it was written.  On the way, its digits are taken neither for the beginning
of a date or a time nor for that of a fraction.
-/

namespace EnvAudit

namespace Toml

theorem isDigit_of_isDigit {c : Char} (digit : c.isDigit = true) : isDigit c = true := by
  rw [Char.isDigit, Bool.and_eq_true, decide_eq_true_eq, decide_eq_true_eq] at digit
  rw [isDigit, Bool.and_eq_true, decide_eq_true_eq, decide_eq_true_eq]
  exact digit

theorem beq_of_isDigit {c other : Char} (digit : isDigit c = true)
    (noDigit : isDigit other = false) : (c == other) = false := by
  rw [beq_eq_false_iff_ne]
  rintro rfl
  rw [digit] at noDigit
  cases noDigit

theorem isDigit_of_mem_toDigits {c : Char} {value : Nat} (member : c ∈ Nat.toDigits 10 value) :
    isDigit c = true :=
  isDigit_of_isDigit (Nat.isDigit_of_mem_toDigits (by decide) (by decide) member)

theorem foldl_hexValue {digits : List Char} (decimal : ∀ c ∈ digits, isDigit c = true)
    (start : Nat) : digits.foldl (fun value digit => 10 * value + hexValue digit) start =
      Nat.ofDigitChars 10 digits start := by
  induction digits generalizing start with
  | nil => rfl
  | cons c digits ih =>
      obtain ⟨digit, others⟩ := List.forall_mem_cons.mp decimal
      rw [List.foldl_cons, ih others, hexValue, if_pos digit, Nat.ofDigitChars_cons]

theorem digitsValue_toDigits (value : Nat) : digitsValue 10 (Nat.toDigits 10 value) = value := by
  rw [digitsValue, foldl_hexValue fun c => isDigit_of_mem_toDigits, Nat.ofDigitChars_ten_toDigits]

namespace Reader

section Digits

variable {digits : List Char} (decimal : ∀ c ∈ digits, isDigit c = true) (rest : List Char)

include decimal

/-- Behind digits up to the end of a line, there is nothing but those and the end. -/
theorem stops_digits {test : Char → Bool} (onDigits : ∀ c, isDigit c = true → test c = false)
    (onEnd : test '\n' = false) : Text.Stops test (digits ++ '\n' :: rest) := by
  cases digits with
  | nil => exact Text.stops_cons onEnd rest
  | cons c digits => exact Text.stops_cons (onDigits c (decimal c List.mem_cons_self)) _

theorem stops_char_digits {c : Char} (noDigit : isDigit c = false) (inLine : c ≠ '\n') :
    Text.Stops (· == c) (digits ++ '\n' :: rest) := by
  refine stops_digits decimal rest (fun other digit => ?_) ?_
  · exact beq_of_isDigit digit noDigit
  · simpa using inLine.symm

theorem refuses_char_digits {c : Char} (noDigit : isDigit c = false) (inLine : c ≠ '\n') :
    Refuses (char c) (digits ++ '\n' :: rest) :=
  refuses_one (stops_char_digits decimal rest noDigit inLine)

theorem exactly_digits (count : Nat) :
    Refuses (exactly count isDigit) (digits ++ '\n' :: rest) ∨
      exactly count isDigit (digits ++ '\n' :: rest) =
        .done (digits.take count) (digits.drop count ++ '\n' :: rest) := by
  rcases Nat.lt_or_ge digits.length count with few | enough
  · left
    have endTaken : '\n' ∈ (digits ++ '\n' :: rest).take count := by
      obtain ⟨more, further⟩ : ∃ more, count - digits.length = more + 1 :=
        ⟨count - digits.length - 1, by omega⟩
      rw [List.take_append, further, List.take_succ_cons]
      exact List.mem_append_right _ List.mem_cons_self
    refine ⟨_, if_neg fun all => ?_⟩
    have most := List.length_take_le count (digits ++ '\n' :: rest)
    have fewer := List.length_filter_le isDigit ((digits ++ '\n' :: rest).take count)
    have whole : ((digits ++ '\n' :: rest).take count |>.filter isDigit).length =
        ((digits ++ '\n' :: rest).take count).length := by omega
    cases List.length_filter_eq_length_iff.mp whole '\n' endTaken
  · right
    have length := List.length_take_of_le enough
    have reads := exactly_done length (fun c member => decimal c (List.mem_of_mem_take member))
      (digits.drop count ++ '\n' :: rest)
    rwa [← List.append_assoc, List.take_append_drop] at reads

theorem twoDigits_digits (least greatest : Nat) :
    Refuses (twoDigits least greatest) (digits ++ '\n' :: rest) ∨
      ∃ value, twoDigits least greatest (digits ++ '\n' :: rest) =
        .done value (digits.drop 2 ++ '\n' :: rest) := by
  rcases exactly_digits decimal rest 2 with refuses | reads
  · exact .inl refuses.check
  · by_cases fits : (decide (least ≤ digitsValue 10 (digits.take 2)) &&
        decide (digitsValue 10 (digits.take 2) ≤ greatest)) = true
    · exact .inr ⟨_, check_done reads (if_pos fits)⟩
    · refine .inl ⟨{ left := (digits ++ '\n' :: rest).length, cause := some outOfRange }, ?_⟩
      simp only [twoDigits, check, reads, if_neg fits]

theorem refuses_time : Refuses time (digits ++ '\n' :: rest) := by
  rcases twoDigits_digits decimal rest 0 23 with refuses | ⟨value, reads⟩
  · exact refuses.bind
  · have noColon : Refuses (char ':') (digits.drop 2 ++ '\n' :: rest) :=
      refuses_char_digits (fun c member => decimal c (List.mem_of_mem_drop member)) rest rfl
        (by decide)
    exact Refuses.after reads noColon.bind

theorem refuses_date : Refuses date (digits ++ '\n' :: rest) := by
  rcases exactly_digits decimal rest 4 with refuses | reads
  · exact refuses.bind
  · have noDash : Refuses (char '-') (digits.drop 4 ++ '\n' :: rest) :=
      refuses_char_digits (fun c member => decimal c (List.mem_of_mem_drop member)) rest rfl
        (by decide)
    exact Refuses.after reads noDash.bind

theorem refuses_dateTime : Refuses dateTime (digits ++ '\n' :: rest) :=
  (refuses_date decimal rest).bind.mapFault.orElse (refuses_time decimal rest).mapFault

theorem moreDigits_done : moreDigits isDigit (digits ++ '\n' :: rest) =
    .done digits ('\n' :: rest) := by
  induction digits with
  | nil =>
      have noDigit : Refuses (one isDigit) ('\n' :: rest) := refuses_one (Text.stops_cons rfl rest)
      have noGroup : Refuses (char '_') ('\n' :: rest) := refuses_char (by decide) rest
      exact (noDigit.orElse noGroup.bind).many
  | cons c digits ih =>
      obtain ⟨digit, others⟩ := List.forall_mem_cons.mp decimal
      exact many_done (orElse_done (one_done digit _)) (Nat.lt_succ_self _) (ih others)

theorem sign_digits : sign (digits ++ '\n' :: rest) = .done false (digits ++ '\n' :: rest) := by
  have unsigned : Refuses (one fun c => c == '+' || c == '-') (digits ++ '\n' :: rest) := by
    refine refuses_one (stops_digits decimal rest (fun c digit => ?_) rfl)
    rw [beq_of_isDigit digit rfl, beq_of_isDigit digit rfl]
    rfl
  exact bind_done unsigned.optional

end Digits

section Numbers

variable (value : Nat) (rest : List Char)

theorem decimalDigits_toDigits : decimalDigits (Nat.toDigits 10 value ++ '\n' :: rest) =
    .done (false, Nat.toDigits 10 value) ('\n' :: rest) := by
  have decimal : ∀ c ∈ Nat.toDigits 10 value, isDigit c = true :=
    fun c => isDigit_of_mem_toDigits
  obtain ⟨first, others, whole⟩ := List.exists_cons_of_ne_nil
    (Nat.toDigits_ne_nil (b := 10) (n := value))
  have unsigned := sign_digits decimal rest
  rw [whole] at decimal unsigned ⊢
  obtain ⟨digit, further⟩ := List.forall_mem_cons.mp decimal
  have more := moreDigits_done further rest
  refine mapFault_done ((bind_done unsigned).trans ?_)
  by_cases zero : first = '0'
  · have isZero := Text.eq_zero_of_head?_toDigits value (by rw [whole, zero]; rfl)
    rw [isZero, Nat.toDigits_zero] at whole
    obtain ⟨rfl, rfl⟩ := List.cons.inj whole
    have notPositive : Refuses (one fun c => '1' ≤ c && c ≤ '9') ('0' :: '\n' :: rest) :=
      refuses_one (Text.stops_cons rfl _)
    exact bind_done (notPositive.bind.orElse_apply.trans (bind_done (one_done digit _)))
  · have nonzero : ('1' ≤ first && first ≤ '9') = true := by
      have different : first.toNat ≠ 0x30 := fun same => zero (Char.toNat_inj.mp same)
      rw [isDigit, Bool.and_eq_true, decide_eq_true_eq, decide_eq_true_eq] at digit
      rw [Bool.and_eq_true, decide_eq_true_eq, decide_eq_true_eq]
      have least : 0x30 ≤ first.toNat := digit.1
      exact ⟨show 0x31 ≤ first.toNat by omega, digit.2⟩
    exact bind_done (orElse_done ((bind_done (one_done nonzero _)).trans (bind_done more)))

theorem refuses_float : Refuses float (Nat.toDigits 10 value ++ '\n' :: rest) := by
  have digits := decimalDigits_toDigits value rest
  have noExponent : Refuses exponent ('\n' :: rest) :=
    (refuses_one (Text.stops_cons rfl rest)).bind
  have noFraction : Refuses fraction ('\n' :: rest) := (refuses_char (by decide) rest).bind
  have notFinite : Refuses finiteFloat (Nat.toDigits 10 value ++ '\n' :: rest) :=
    Refuses.after digits (noExponent.bind.orElse noFraction.bind).bind
  have notBounded : Refuses boundedFloat (Nat.toDigits 10 value ++ '\n' :: rest) := by
    obtain ⟨fault, refuses⟩ := notFinite
    exact ⟨fault, by simp only [boundedFloat, refuses]⟩
  have decimal : ∀ c ∈ Nat.toDigits 10 value, isDigit c = true :=
    fun c => isDigit_of_mem_toDigits
  have noWord (word : List Char) (c : Char) (noDigit : isDigit c = false) (inLine : c ≠ '\n') :
      Refuses (literal (c :: word)) (Nat.toDigits 10 value ++ '\n' :: rest) :=
    refuses_literal (isPrefixOf_of_stops (stops_char_digits decimal rest noDigit inLine) _)
  have notSpecial : Refuses specialFloat (Nat.toDigits 10 value ++ '\n' :: rest) :=
    Refuses.after (sign_digits decimal rest) ((noWord _ 'i' rfl (by decide)).bind.orElse
      (noWord _ 'n' rfl (by decide)).bind).bind
  exact (notBounded.orElse notSpecial).mapFault

theorem integer_toDigits (bounded : (value : Int) ≤ integerBounds.2) :
    integer (Nat.toDigits 10 value ++ '\n' :: rest) = .done (value : Int) ('\n' :: rest) := by
  have fits : boundedInteger (value : Int) = .ok (value : Int) := by
    have least : ¬ (value : Int) < integerBounds.1 := by
      have : integerBounds.1 < 0 := by decide
      omega
    rw [boundedInteger, if_neg (Int.not_lt.mpr bounded), if_neg least]
  -- A zero in front is all there is, so that no letter for a base stands behind it.
  have unbased (c : Char) (inLine : c ≠ '\n') (more : List Char) :
      Nat.toDigits 10 value ++ '\n' :: rest ≠ '0' :: c :: more := by
    intro based
    obtain ⟨first, others, whole⟩ := List.exists_cons_of_ne_nil
      (Nat.toDigits_ne_nil (b := 10) (n := value))
    rw [whole] at based
    have zeroFirst : (Nat.toDigits 10 value).head? = some '0' := by
      rw [whole, (List.cons.inj based).1]
      rfl
    have isZero := Text.eq_zero_of_head?_toDigits value zeroFirst
    rw [isZero, Nat.toDigits_zero] at whole
    obtain ⟨rfl, rfl⟩ := List.cons.inj whole
    exact inLine (List.cons.inj (List.cons.inj based).2).1.symm
  have digits := decimalDigits_toDigits value rest
  rw [integer]
  · simp only [digits, digitsValue_toDigits]
    simp [fits]
  · exact unbased 'x' (by decide)
  · exact unbased 'o' (by decide)
  · exact unbased 'b' (by decide)

/-- A number is taken for an integer. -/
theorem numeral_toDigits (bounded : (value : Int) ≤ integerBounds.2) :
    numeral (Nat.toDigits 10 value ++ '\n' :: rest) =
      .done (Item.integer (value : Int)) ('\n' :: rest) := by
  have decimal : ∀ c ∈ Nat.toDigits 10 value, isDigit c = true :=
    fun c => isDigit_of_mem_toDigits
  exact (refuses_dateTime decimal rest).bind.orElse_apply.trans
    ((refuses_float value rest).bind.orElse_apply.trans
      (bind_done (integer_toDigits value rest bounded)))

end Numbers

end Reader

end Toml

end EnvAudit
