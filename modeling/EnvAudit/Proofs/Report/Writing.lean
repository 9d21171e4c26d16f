import EnvAudit.Proofs.Report.Grammar
import EnvAudit.Proofs.Text.Digits

/-!
# Written JSON

What the library writes for a value is a text of the grammar that stands for the value.
-/

namespace EnvAudit

namespace Json

variable {gap text : List Char}

/-- Written codes belong to controls, so they have at most two digits that are no zeros. -/
theorem isCode_fourHexDigits :
    ∀ code < 0x20, (fourHexDigits code).length = 4 ∧
      (fourHexDigits code).all Toml.isHexDigit = true ∧
      Toml.digitsValue 16 (fourHexDigits code) = code := by
  decide

theorem charSpelling_encodeChar (c : Char) : CharSpelling c (encodeChar c) := by
  unfold encodeChar
  split
  · next special =>
    simp only [Bool.or_eq_true, decide_eq_true_eq] at special
    rcases special with rfl | rfl
    · exact .escaped (by decide)
    · exact .escaped (by decide)
  next ordinary =>
  simp only [Bool.or_eq_true, decide_eq_true_eq, not_or] at ordinary
  split_ifs with backspace tab lineFeed formFeed carriageReturn control
  · exact backspace ▸ .escaped (by decide)
  · exact tab ▸ .escaped (by decide)
  · exact lineFeed ▸ .escaped (by decide)
  · exact formFeed ▸ .escaped (by decide)
  · exact carriageReturn ▸ .escaped (by decide)
  · obtain ⟨length, hexadecimal, value⟩ := isCode_fourHexDigits c.toNat control
    exact .coded ⟨length, List.all_eq_true.mp hexadecimal, value⟩
  · exact .plain (Char.not_lt.mp control) ordinary.1 ordinary.2

theorem textSpelling_encodeText (text : String) : TextSpelling text (encodeText text) := by
  unfold encodeText
  rw [List.flatMap_def]
  exact .quoted (List.forall₂_map_right_iff.mpr
    (List.forall₂_same.mpr fun c _ => charSpelling_encodeChar c))

theorem numberSpelling_toDigits (value : Nat) :
    NumberSpelling value (Nat.toDigits 10 value) where
  nonempty := Nat.toDigits_ne_nil
  decimal c digit := Nat.isDigit_of_mem_toDigits (by decide) (by decide) digit
  shortest zero := by
    rw [Text.eq_zero_of_head?_toDigits value zero, Nat.toDigits_zero]
  value := Nat.ofDigitChars_ten_toDigits

theorem blanks_newLine (level : Nat) : Blanks (newLine level) := by
  intro c inside
  rcases List.mem_cons.mp inside with rfl | inside
  · rfl
  · rw [List.eq_of_mem_replicate inside]
    rfl

theorem blanks_nil : Blanks [] := by
  rintro _ ⟨⟩

theorem FieldSpelling.written (name : String) {value : Json} {before behind : List Char}
    (blanksBefore : Blanks before) (spelled : Spelling value text) (blanksBehind : Blanks behind) :
    FieldSpelling (name, value)
      (before ++ encodeText name ++ ':' :: ' ' :: (text ++ behind)) := by
  have blank : Blanks [' '] := by simp [Blanks, isBlank]
  have whole := FieldSpelling.colon blanksBefore (textSpelling_encodeText name) blanks_nil
    (.among blank spelled blanksBehind)
  simpa using whole

mutual

/-- The text of a value stands for the value. -/
theorem spelling_write (level : Nat) : (value : Json) → Spelling value (write level value)
  | .boolean true => .isTrue
  | .boolean false => .isFalse
  | .natural value => .natural (numberSpelling_toDigits value)
  | .text value => .text (textSpelling_encodeText value)
  | .list [] => .emptyList blanks_nil
  | .list (item :: items) => by
      have whole := Spelling.list (itemsSpelling_write (level + 1) items
        (spelling_write (level + 1) item) (blanks_newLine level))
      simpa [write] using whole
  | .object [] => .emptyObject blanks_nil
  | .object ((name, value) :: fields) => by
      have whole := Spelling.object (fieldsSpelling_write (level + 1) fields name
        (spelling_write (level + 1) value) (blanks_newLine level))
      simpa [write] using whole

/-- The texts of some items after another. -/
theorem itemsSpelling_write (level : Nat) : {item : Json} → {text gap : List Char} →
    (items : List Json) → Spelling item text → Blanks gap →
      ItemsSpelling (item :: items) (newLine level ++ text ++ writeItems level items ++ gap)
  | _, _, _, [], spelled, blanks => by
      have whole := ItemsSpelling.last (.among (blanks_newLine level) spelled blanks)
      simpa [writeItems] using whole
  | _, _, _, item :: items, spelled, blanks => by
      have whole := ItemsSpelling.cons (.among (blanks_newLine level) spelled blanks_nil)
        (itemsSpelling_write level items (spelling_write level item) blanks)
      simpa [writeItems] using whole

/-- The texts of some fields after another. -/
theorem fieldsSpelling_write (level : Nat) : {value : Json} → {text gap : List Char} →
    (fields : List (String × Json)) → (name : String) → Spelling value text → Blanks gap →
      FieldsSpelling ((name, value) :: fields)
        (newLine level ++ encodeText name ++ ':' :: ' ' :: (text ++ writeFields level fields) ++
          gap)
  | _, _, _, [], name, spelled, blanks => by
      have whole := FieldsSpelling.last (.written name (blanks_newLine level) spelled blanks)
      simpa [writeFields] using whole
  | _, _, _, (next, value) :: fields, name, spelled, blanks => by
      have whole := FieldsSpelling.cons (.written name (blanks_newLine level) spelled blanks_nil)
        (fieldsSpelling_write level fields next (spelling_write level value) blanks)
      simpa [writeFields] using whole

end

/-- The text of a value is a document that stands for the value. -/
theorem document_pretty (value : Json) : Document value (pretty value).toList := by
  have whole := Document.among blanks_nil (spelling_write 0 value) blanks_nil
  simpa [pretty] using whole

end Json

end EnvAudit
