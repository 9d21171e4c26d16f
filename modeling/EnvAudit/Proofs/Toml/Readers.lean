import EnvAudit.Proofs.Text.Stretches
import EnvAudit.Toml.Reader

/-!
# What readers take

What a reader does with a text follows from what the readers do that it is made of.
-/

namespace EnvAudit

namespace Toml

namespace Reader

variable {α β : Type} {reader first second : Reader α} {next : α → Reader β} {value : α}
variable {chars text rest : List Char} {c : Char} {test : Char → Bool}

/-- The reader finds nothing here, and another may be tried. -/
def Refuses (reader : Reader α) (chars : List Char) : Prop :=
  ∃ fault, reader chars = .retry fault

theorem bind_apply (reader : Reader α) (next : α → Reader β) (chars : List Char) :
    (reader >>= next) chars =
      match reader chars with
      | .done value rest => next value rest
      | .retry fault => .retry fault
      | .stop fault => .stop fault :=
  rfl

instance : LawfulMonad Reader := LawfulMonad.mk' Reader
  (by
    intro α reader
    funext chars
    change (reader >>= pure) chars = _
    rw [bind_apply]
    cases reader chars <;> rfl)
  (fun _ _ => rfl)
  (by
    intro α β γ reader first second
    funext chars
    rw [bind_apply, bind_apply, bind_apply]
    cases reader chars <;> rfl)

theorem bind_done (reads : reader chars = .done value rest) :
    (reader >>= next) chars = next value rest := by
  rw [bind_apply, reads]

theorem Refuses.bind (refuses : Refuses reader chars) : Refuses (reader >>= next) chars := by
  obtain ⟨fault, refuses⟩ := refuses
  exact ⟨fault, by rw [bind_apply, refuses]⟩

/-- A reader refuses a text if what is to follow refuses the rest. -/
theorem Refuses.after (reads : reader chars = .done value rest)
    (refuses : Refuses (next value) rest) : Refuses (reader >>= next) chars := by
  rwa [Refuses, bind_done reads]

theorem orElse_done (reads : first chars = .done value rest) :
    first.orElse second chars = .done value rest := by
  rw [orElse, reads]

theorem Refuses.orElse_apply (refuses : Refuses first chars) :
    first.orElse second chars = second chars := by
  obtain ⟨fault, refuses⟩ := refuses
  rw [orElse, refuses]

theorem Refuses.orElse (refuses : Refuses first chars) (also : Refuses second chars) :
    Refuses (first.orElse second) chars := by
  rwa [Refuses, refuses.orElse_apply]

theorem optional_done (reads : reader chars = .done value rest) :
    optional reader chars = .done (some value) rest := by
  rw [optional, reads]

theorem Refuses.optional (refuses : Refuses reader chars) :
    optional reader chars = .done none chars := by
  obtain ⟨fault, refuses⟩ := refuses
  rw [Reader.optional, refuses]

theorem ahead_done (reads : reader chars = .done value rest) :
    ahead reader chars = .done value chars := by
  rw [ahead, reads]

theorem Refuses.ahead (refuses : Refuses reader chars) : Refuses (ahead reader) chars := by
  obtain ⟨fault, refuses⟩ := refuses
  exact ⟨fault, by rw [Reader.ahead, refuses]⟩

theorem final_done (reads : reader chars = .done value rest) :
    final reader chars = .done value rest := by
  rw [final, reads]

theorem mapFault_done {change : Fault → Fault} (reads : reader chars = .done value rest) :
    mapFault change reader chars = .done value rest := by
  rw [mapFault, reads]

theorem Refuses.mapFault {change : Fault → Fault} (refuses : Refuses reader chars) :
    Refuses (mapFault change reader) chars := by
  obtain ⟨fault, refuses⟩ := refuses
  exact ⟨change fault, by rw [Reader.mapFault, refuses]⟩

theorem expecting_done {hope : String} (reads : reader chars = .done value rest) :
    expecting hope reader chars = .done value rest :=
  mapFault_done reads

theorem check_done {change : α → Except String β} {changed : β}
    (reads : reader chars = .done value rest) (good : change value = .ok changed) :
    check reader change chars = .done changed rest := by
  simp only [check, reads, good]

theorem Refuses.check {change : α → Except String β} (refuses : Refuses reader chars) :
    Refuses (check reader change) chars := by
  obtain ⟨fault, refuses⟩ := refuses
  exact ⟨fault, by rw [Reader.check, refuses]⟩

theorem spanned_done (reads : reader chars = .done value rest) :
    spanned reader chars = .done (value, chars.length, rest.length) rest := by
  rw [spanned, reads]

theorem Refuses.spanned (refuses : Refuses reader chars) : Refuses (spanned reader) chars := by
  obtain ⟨fault, refuses⟩ := refuses
  exact ⟨fault, by rw [Reader.spanned, refuses]⟩

theorem Refuses.many (refuses : Refuses reader chars) : many reader chars = .done [] chars := by
  obtain ⟨fault, refuses⟩ := refuses
  rw [Reader.many, refuses]

theorem many_done {values : List α} {between : List Char}
    (reads : reader chars = .done value between) (shorter : between.length < chars.length)
    (others : many reader between = .done values rest) :
    many reader chars = .done (value :: values) rest := by
  rw [many, reads]
  simp only [if_pos shorter, others]

section Characters

theorem one_done (passes : test c = true) (rest : List Char) :
    one test (c :: rest) = .done c rest :=
  if_pos passes

theorem refuses_one (stops : Text.Stops test chars) : Refuses (one test) chars := by
  cases chars with
  | nil => exact ⟨_, rfl⟩
  | cons c rest => exact ⟨_, if_neg (by simp [stops c rfl])⟩

theorem char_done (c : Char) (rest : List Char) : char c (c :: rest) = .done c rest :=
  one_done (beq_self_eq_true c) rest

theorem refuses_char {other : Char} (different : other ≠ c) (rest : List Char) :
    Refuses (char c) (other :: rest) :=
  refuses_one (Text.stops_cons (by simpa using different) rest)

theorem run_done (passes : ∀ c ∈ text, test c = true) (stops : Text.Stops test rest) :
    run test (text ++ rest) = .done text rest := by
  rw [run, stops.takeWhile_append passes, stops.dropWhile_append passes]

theorem someRun_done (nonempty : text ≠ []) (passes : ∀ c ∈ text, test c = true)
    (stops : Text.Stops test rest) : someRun test (text ++ rest) = .done text rest := by
  rw [someRun, stops.takeWhile_append passes, stops.dropWhile_append passes,
    if_neg (by simpa using nonempty)]

theorem refuses_someRun (stops : Text.Stops test chars) : Refuses (someRun test) chars := by
  rw [Refuses, someRun, stops.takeWhile]
  exact ⟨_, rfl⟩

theorem exactly_done {count : Nat} (length : text.length = count)
    (passes : ∀ c ∈ text, test c = true) (rest : List Char) :
    exactly count test (text ++ rest) = .done text rest := by
  have taken : (text ++ rest).take count = text := by rw [← length, List.take_left]
  have dropped : (text ++ rest).drop count = rest := by rw [← length, List.drop_left]
  rw [exactly, taken, dropped, List.filter_eq_self.mpr passes, if_pos length]

theorem literal_done (text rest : List Char) : literal text (text ++ rest) = .done () rest := by
  have inFront : text.isPrefixOf (text ++ rest) = true :=
    List.isPrefixOf_iff_prefix.mpr (List.prefix_append text rest)
  rw [literal, if_pos inFront, List.drop_left]

theorem refuses_literal (absent : text.isPrefixOf chars = false) :
    Refuses (literal text) chars :=
  ⟨_, if_neg (by simp [absent])⟩

/-- A text is not in front if its first character is not. -/
theorem isPrefixOf_of_stops (stops : Text.Stops (· == c) chars) (more : List Char) :
    (c :: more).isPrefixOf chars = false := by
  cases chars with
  | nil => rfl
  | cons other chars =>
      have different : (c == other) = false :=
        beq_eq_false_iff_ne.mpr (beq_eq_false_iff_ne.mp (stops other rfl)).symm
      simp [List.isPrefixOf, different]

end Characters

end Reader

end Toml

end EnvAudit
