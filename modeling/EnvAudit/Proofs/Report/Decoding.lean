import EnvAudit.Proofs.Report.Grammar
import EnvAudit.Proofs.Text.Stretches

/-!
# Decoding JSON

A decoder for JSON texts, and the proof that it finds in every document the value that the
document stands for.
-/

namespace EnvAudit

namespace Json

/-- A number of four hexadecimal digits, and what is behind it. -/
def readCode (chars : List Char) : Option (Nat × List Char) :=
  let digits := chars.take 4
  if digits.length = 4 ∧ digits.all Toml.isHexDigit then
    some (Toml.digitsValue 16 digits, chars.drop 4)
  else
    none

instance (code : Nat) : Decidable (IsHighCode code) :=
  inferInstanceAs (Decidable (_ ∧ _))

instance (code : Nat) : Decidable (IsLowCode code) :=
  inferInstanceAs (Decidable (_ ∧ _))

/-- The character that one code or a pair of codes stands for. -/
def readCoded (chars : List Char) : Option (Char × List Char) := do
  let (code, rest) ← readCode chars
  if IsHighCode code then
    match rest with
    | '\\' :: 'u' :: rest => do
        let (low, rest) ← readCode rest
        if IsLowCode low then
          some (Char.ofNat (0x10000 + 0x400 * (code - 0xD800) + (low - 0xDC00)), rest)
        else
          none
    | _ => none
  else if IsLowCode code then
    none
  else
    some (Char.ofNat code, rest)

/-- A character of a string. -/
def readChar : List Char → Option (Char × List Char)
  | '\\' :: 'u' :: rest => readCoded rest
  | '\\' :: letter :: rest => (escapes.lookup letter).map fun c => (c, rest)
  | c :: rest => if ' ' ≤ c ∧ c ≠ '"' ∧ c ≠ '\\' then some (c, rest) else none
  | [] => none

/-- The characters of a string up to the quote that ends it, at most `fuel` of them. -/
def readChars : (fuel : Nat) → List Char → Option (List Char × List Char)
  | _, '"' :: rest => some ([], rest)
  | 0, _ => none
  | fuel + 1, chars => do
      let (c, rest) ← readChar chars
      let (others, rest) ← readChars fuel rest
      return (c :: others, rest)

/-- A string. -/
def readText : List Char → Option (String × List Char)
  | '"' :: rest => (readChars rest.length rest).map fun (content, rest) => (.ofList content, rest)
  | _ => none

/-- A natural number. -/
def readNumber (chars : List Char) : Option (Nat × List Char) :=
  let digits := chars.takeWhile Char.isDigit
  if digits = [] ∨ digits.head? = some '0' ∧ digits ≠ ['0'] then
    none
  else
    some (Nat.ofDigitChars 10 digits 0, chars.dropWhile Char.isDigit)

def skipBlanks (chars : List Char) : List Char :=
  chars.dropWhile isBlank

/-- What is behind a character that has to stand here. -/
def expect (c : Char) : List Char → Option (List Char)
  | other :: rest => if other = c then some rest else none
  | [] => none

mutual

/-- A value, with at most `fuel` steps into the parts. -/
def readValue : (fuel : Nat) → List Char → Option (Json × List Char)
  | 0, _ => none
  | _ + 1, 't' :: 'r' :: 'u' :: 'e' :: rest => some (.boolean true, rest)
  | _ + 1, 'f' :: 'a' :: 'l' :: 's' :: 'e' :: rest => some (.boolean false, rest)
  | _ + 1, '"' :: rest => (readText ('"' :: rest)).map fun (value, rest) => (.text value, rest)
  | fuel + 1, '[' :: rest =>
      match expect ']' (skipBlanks rest) with
      | some rest => some (.list [], rest)
      | none => do
          let (items, rest) ← readItems fuel rest
          return (.list items, ← expect ']' rest)
  | fuel + 1, '\x7b' :: rest =>
      match expect '\x7d' (skipBlanks rest) with
      | some rest => some (.object [], rest)
      | none => do
          let (fields, rest) ← readFields fuel rest
          return (.object fields, ← expect '\x7d' rest)
  | _ + 1, chars => (readNumber chars).map fun (value, rest) => (.natural value, rest)

/-- The items of a list. -/
def readItems : (fuel : Nat) → List Char → Option (List Json × List Char)
  | 0, _ => none
  | fuel + 1, chars => do
      let (item, rest) ← readValue fuel (skipBlanks chars)
      match expect ',' (skipBlanks rest) with
      | some rest => do
          let (items, rest) ← readItems fuel rest
          return (item :: items, rest)
      | none => return ([item], skipBlanks rest)

/-- The fields of an object. -/
def readFields : (fuel : Nat) → List Char → Option (List (String × Json) × List Char)
  | 0, _ => none
  | fuel + 1, chars => do
      let (name, rest) ← readText (skipBlanks chars)
      let rest ← expect ':' (skipBlanks rest)
      let (value, rest) ← readValue fuel (skipBlanks rest)
      match expect ',' (skipBlanks rest) with
      | some rest => do
          let (fields, rest) ← readFields fuel rest
          return ((name, value) :: fields, rest)
      | none => return ([(name, value)], skipBlanks rest)

end

/-- The value that a text stands for.  A character begins at most one part and ends at most
one. -/
def decode (chars : List Char) : Option Json := do
  let (value, rest) ← readValue (2 * chars.length) (skipBlanks chars)
  if skipBlanks rest = [] then some value else none

section Strings

variable {c : Char} {code : Nat} {digits text rest : List Char}

theorem readCode_of_isCode (isCode : IsCode digits code) (rest : List Char) :
    readCode (digits ++ rest) = some (code, rest) := by
  have taken : (digits ++ rest).take 4 = digits := by rw [← isCode.length, List.take_left]
  have dropped : (digits ++ rest).drop 4 = rest := by rw [← isCode.length, List.drop_left]
  have fits : digits.length = 4 ∧ digits.all Toml.isHexDigit = true :=
    ⟨isCode.length, List.all_eq_true.mpr isCode.hexadecimal⟩
  simp only [readCode, taken, dropped, if_pos fits, isCode.value]

/-- No character has one of the codes that come in pairs. -/
theorem toNat_single (c : Char) : ¬ IsHighCode c.toNat ∧ ¬ IsLowCode c.toNat := by
  have valid : c.toNat < 0xD800 ∨ 0xDFFF < c.toNat ∧ c.toNat < 0x110000 := c.valid
  unfold IsHighCode IsLowCode
  omega

theorem readChar_of_spelling (spelled : CharSpelling c text) (rest : List Char) :
    readChar (text ++ rest) = some (c, rest) := by
  cases spelled with
  | plain visible notQuote notBackslash =>
      rw [List.singleton_append, readChar, if_pos ⟨visible, notQuote, notBackslash⟩]
      · rintro _ rfl
        exact absurd rfl notBackslash
      · rintro _ _ rfl
        exact absurd rfl notBackslash
  | escaped known =>
      simp only [escapes, List.mem_cons, Prod.mk.injEq, List.not_mem_nil, or_false] at known
      rcases known with ⟨rfl, rfl⟩ | ⟨rfl, rfl⟩ | ⟨rfl, rfl⟩ | ⟨rfl, rfl⟩ | ⟨rfl, rfl⟩ |
        ⟨rfl, rfl⟩ | ⟨rfl, rfl⟩ | ⟨rfl, rfl⟩ <;> rfl
  | coded isCode =>
      rw [List.cons_append, List.cons_append, readChar, readCoded, readCode_of_isCode isCode]
      simp [(toNat_single c).1, (toNat_single c).2]
  | paired isHigh isLow highBounds lowBounds value =>
      have split (high low : List Char) : '\\' :: 'u' :: high ++ '\\' :: 'u' :: low ++ rest =
          '\\' :: 'u' :: (high ++ '\\' :: 'u' :: (low ++ rest)) := by simp
      rw [split, readChar, readCoded, readCode_of_isCode isHigh]
      simp only [Option.bind_eq_bind, Option.bind_some, if_pos highBounds,
        readCode_of_isCode isLow, if_pos lowBounds]
      rw [← value, Char.ofNat_toNat]

theorem CharSpelling.ne_quote (spelled : CharSpelling c text) :
    text ≠ [] ∧ text.head? ≠ some '"' := by
  cases spelled with
  | plain _ notQuote _ => simpa using notQuote
  | escaped _ => simp
  | coded _ => simp
  | paired _ _ _ _ _ => simp

theorem readChars_of_spelling {content : List Char} {parts : List (List Char)}
    (spelled : List.Forall₂ CharSpelling content parts) (rest : List Char) {fuel : Nat}
    (enough : content.length ≤ fuel) :
    readChars fuel (parts.flatten ++ '"' :: rest) = some (content, rest) := by
  induction spelled generalizing fuel with
  | nil => cases fuel <;> rfl
  | @cons c part content parts first further ih =>
      obtain ⟨nonempty, notQuote⟩ := first.ne_quote
      obtain ⟨fuel, rfl⟩ := Nat.exists_eq_add_one_of_ne_zero (n := fuel) (by
        rintro rfl
        simp at enough)
      have read := readChar_of_spelling first (parts.flatten ++ '"' :: rest)
      rw [List.flatten_cons, List.append_assoc, readChars, read]
      · simp [ih (by simpa using enough)]
      · rintro other whole
        cases part with
        | nil => exact nonempty rfl
        | cons head part => exact notQuote (by simp_all)

theorem length_le_flatten {content : List Char} {parts : List (List Char)}
    (spelled : List.Forall₂ CharSpelling content parts) :
    content.length ≤ parts.flatten.length := by
  induction spelled with
  | nil => exact Nat.le_refl 0
  | @cons c part content parts first further ih =>
      have nonempty := List.length_pos_of_ne_nil first.ne_quote.1
      rw [List.flatten_cons, List.length_append, List.length_cons]
      omega

theorem readText_of_spelling {value : String} (spelled : TextSpelling value text)
    (rest : List Char) : readText (text ++ rest) = some (value, rest) := by
  obtain @⟨parts, spelled⟩ := spelled
  have whole : '"' :: parts.flatten ++ ['"'] ++ rest = '"' :: (parts.flatten ++ '"' :: rest) := by
    simp
  have enough : value.toList.length ≤ (parts.flatten ++ '"' :: rest).length := by
    rw [List.length_append]
    exact Nat.le_add_right_of_le (length_le_flatten spelled)
  rw [whole, readText, readChars_of_spelling spelled rest enough]
  simp

end Strings

section Numbers

variable {rest : List Char}

theorem readNumber_of_spelling {value : Nat} {digits : List Char}
    (spelled : NumberSpelling value digits) (separate : Text.Stops Char.isDigit rest) :
    readNumber (digits ++ rest) = some (value, rest) := by
  have taken := separate.takeWhile_append spelled.decimal
  have dropped := separate.dropWhile_append spelled.decimal
  have good : ¬ (digits = [] ∨ digits.head? = some '0' ∧ digits ≠ ['0']) := by
    rintro (none | ⟨zero, more⟩)
    · exact spelled.nonempty none
    · exact more (spelled.shortest zero)
  simp only [readNumber, taken, dropped, if_neg good, spelled.value]

end Numbers

section Blanks

variable {value : Json} {text gap rest : List Char}

theorem skipBlanks_append (blanks : Blanks gap) (rest : List Char) :
    skipBlanks (gap ++ rest) = skipBlanks rest :=
  List.dropWhile_append_of_pos blanks

theorem skipBlanks_cons {c : Char} (solid : isBlank c = false) (rest : List Char) :
    skipBlanks (c :: rest) = c :: rest :=
  List.dropWhile_cons_of_neg (by simp [solid])

theorem Blanks.separate (blanks : Blanks gap) (separate : Text.Stops Char.isDigit rest) :
    Text.Stops Char.isDigit (gap ++ rest) := by
  cases gap with
  | nil => exact separate
  | cons c gap =>
      rintro _ ⟨⟩
      have blank := blanks c (List.mem_cons_self)
      simp only [isBlank, Bool.or_eq_true, beq_iff_eq] at blank
      rcases blank with ((rfl | rfl) | rfl) | rfl <;> rfl

@[simp] theorem expect_self (c : Char) (rest : List Char) : expect c (c :: rest) = some rest :=
  if_pos rfl

@[simp] theorem expect_ne {c other : Char} (different : other ≠ c) (rest : List Char) :
    expect c (other :: rest) = none :=
  if_neg different

/-- No blank stands in front of a value, and no bracket that ends a list. -/
theorem Spelling.starts (spelled : Spelling value text) :
    ∃ c others, text = c :: others ∧ isBlank c = false ∧ c ≠ ']' := by
  cases spelled with
  | natural spelled =>
      obtain ⟨c, others, rfl⟩ := List.exists_cons_of_ne_nil spelled.nonempty
      refine ⟨c, others, rfl, ?_, ?_⟩
      · have digit := spelled.decimal c (List.mem_cons_self)
        by_contra blank
        rw [Bool.not_eq_false] at blank
        simp only [isBlank, Bool.or_eq_true, beq_iff_eq] at blank
        rcases blank with ((rfl | rfl) | rfl) | rfl <;> exact absurd digit (by decide)
      · rintro rfl
        exact absurd (spelled.decimal _ (List.mem_cons_self)) (by decide)
  | text spelled =>
      obtain ⟨spelled⟩ := spelled
      exact ⟨_, _, rfl, rfl, by decide⟩
  | isTrue => exact ⟨_, _, rfl, rfl, by decide⟩
  | isFalse => exact ⟨_, _, rfl, rfl, by decide⟩
  | emptyList _ => exact ⟨_, _, rfl, rfl, by decide⟩
  | list _ => exact ⟨_, _, rfl, rfl, by decide⟩
  | emptyObject _ => exact ⟨_, _, rfl, rfl, by decide⟩
  | object _ => exact ⟨_, _, rfl, rfl, by decide⟩

theorem Spelling.skipBlanks_append (spelled : Spelling value text) (rest : List Char) :
    skipBlanks (text ++ rest) = text ++ rest := by
  obtain ⟨c, others, rfl, solid, -⟩ := spelled.starts
  exact skipBlanks_cons solid _

end Blanks

section Values

variable {value : Json} {items : List Json} {fields : List (String × Json)}
  {text rest : List Char} {fuel : Nat}

/-- What the readers find in the texts that are short enough for the fuel. -/
structure Reads (fuel : Nat) : Prop where
  value {value : Json} {text rest : List Char} (spelled : Spelling value text)
    (enough : 2 * text.length ≤ fuel) (separate : Text.Stops Char.isDigit rest) :
    readValue fuel (text ++ rest) = some (value, rest)
  items {items : List Json} {text rest : List Char} (spelled : ItemsSpelling items text)
    (enough : 2 * text.length < fuel) :
    readItems fuel (text ++ ']' :: rest) = some (items, ']' :: rest)
  fields {fields : List (String × Json)} {text rest : List Char}
    (spelled : FieldsSpelling fields text) (enough : 2 * text.length < fuel) :
    readFields fuel (text ++ '\x7d' :: rest) = some (fields, '\x7d' :: rest)

theorem Spelling.length_pos (spelled : Spelling value text) : 0 < text.length := by
  obtain ⟨c, others, rfl, -⟩ := spelled.starts
  exact Nat.succ_pos _

/-- No bracket that ends a list is the first of the characters that are no blanks. -/
theorem ItemsSpelling.starts (spelled : ItemsSpelling items text) (rest : List Char) :
    expect ']' (skipBlanks (text ++ rest)) = none := by
  have document {item : Json} {text : List Char} (spelled : Document item text)
      (rest : List Char) : expect ']' (skipBlanks (text ++ rest)) = none := by
    obtain ⟨blanksBefore, spelled, -⟩ := spelled
    obtain ⟨c, others, rfl, solid, different⟩ := spelled.starts
    rw [List.append_assoc, List.append_assoc, skipBlanks_append blanksBefore, List.cons_append,
      skipBlanks_cons solid, expect_ne different]
  cases spelled with
  | last spelled => exact document spelled rest
  | cons spelled _ =>
      rw [List.append_assoc]
      exact document spelled _

/-- No bracket that ends an object is the first of the characters that are no blanks. -/
theorem FieldsSpelling.starts (spelled : FieldsSpelling fields text) (rest : List Char) :
    expect '\x7d' (skipBlanks (text ++ rest)) = none := by
  have field {field : String × Json} {text : List Char} (spelled : FieldSpelling field text)
      (rest : List Char) : expect '\x7d' (skipBlanks (text ++ rest)) = none := by
    obtain ⟨blanksBefore, ⟨_⟩, -, -⟩ := spelled
    simp only [List.append_assoc, List.cons_append, skipBlanks_append blanksBefore]
    rw [skipBlanks_cons rfl, expect_ne (by decide)]
  cases spelled with
  | last spelled => exact field spelled rest
  | cons spelled _ =>
      rw [List.append_assoc]
      exact field spelled _

/-- A value among blanks is read, and the blanks behind it may be skipped. -/
theorem Reads.document (reads : Reads fuel) (spelled : Document value text)
    (enough : 2 * text.length ≤ fuel) (separate : Text.Stops Char.isDigit rest) :
    ∃ behind, readValue fuel (skipBlanks (text ++ rest)) = some (value, behind) ∧
      skipBlanks behind = skipBlanks rest := by
  obtain @⟨_, before, text, behind, blanksBefore, spelled, blanksBehind⟩ := spelled
  have shorter : 2 * text.length ≤ fuel := by
    simp only [List.length_append] at enough
    omega
  refine ⟨behind ++ rest, ?_, skipBlanks_append blanksBehind rest⟩
  rw [List.append_assoc, List.append_assoc, skipBlanks_append blanksBefore,
    spelled.skipBlanks_append]
  exact reads.value spelled shorter (blanksBehind.separate separate)

theorem bracketed (opening closing : Char) (inner rest : List Char) :
    opening :: inner ++ [closing] ++ rest = opening :: (inner ++ closing :: rest) := by
  rw [List.cons_append, List.cons_append, List.append_assoc, List.singleton_append]

theorem Reads.value_succ (reads : Reads fuel) (spelled : Spelling value text)
    (enough : 2 * text.length ≤ fuel + 1) (separate : Text.Stops Char.isDigit rest) :
    readValue (fuel + 1) (text ++ rest) = some (value, rest) := by
  cases spelled with
  | isTrue => rfl
  | isFalse => rfl
  | natural spelled =>
      obtain ⟨c, others, rfl⟩ := List.exists_cons_of_ne_nil spelled.nonempty
      have digit := spelled.decimal c (List.mem_cons_self)
      rw [List.cons_append, readValue, ← List.cons_append, readNumber_of_spelling spelled separate]
      · rfl
      all_goals
        rintro _ starts
        rw [(List.cons.inj starts).1] at digit
        exact absurd digit (by decide)
  | text spelled =>
      have read := readText_of_spelling spelled rest
      obtain ⟨spelled⟩ := spelled
      rw [List.cons_append, List.cons_append] at read ⊢
      rw [readValue, read]
      rfl
  | emptyList blanks =>
      rw [bracketed, readValue, skipBlanks_append blanks]
      rfl
  | emptyObject blanks =>
      rw [bracketed, readValue, skipBlanks_append blanks]
      rfl
  | @list items inner spelled =>
      have shorter : 2 * inner.length < fuel := by
        simp only [List.length_append, List.length_cons] at enough
        omega
      rw [bracketed, readValue, spelled.starts]
      simp [reads.items spelled shorter]
  | @object fields inner spelled =>
      have shorter : 2 * inner.length < fuel := by
        simp only [List.length_append, List.length_cons] at enough
        omega
      rw [bracketed, readValue, spelled.starts]
      simp [reads.fields spelled shorter]

theorem Reads.items_succ (reads : Reads fuel) (spelled : ItemsSpelling items text)
    (enough : 2 * text.length < fuel + 1) :
    readItems (fuel + 1) (text ++ ']' :: rest) = some (items, ']' :: rest) := by
  cases spelled with
  | last spelled =>
      obtain ⟨behind, read, skipped⟩ := reads.document spelled (Nat.le_of_lt_succ enough)
        (Text.stops_cons (c := ']') rfl rest)
      have ends : skipBlanks (']' :: rest) = ']' :: rest := skipBlanks_cons rfl rest
      simp [readItems, read, skipped, ends]
  | @cons item items text others spelled further =>
      have shorter : 2 * text.length ≤ fuel ∧ 2 * others.length < fuel := by
        simp only [List.length_append, List.length_cons] at enough
        omega
      obtain ⟨behind, read, skipped⟩ := reads.document spelled shorter.1
        (Text.stops_cons (c := ',') rfl (others ++ ']' :: rest))
      rw [skipBlanks_cons rfl] at skipped
      simp [readItems, read, skipped, reads.items further shorter.2]

/-- The name and the colon of a field are read as they stand. -/
theorem Reads.field (reads : Reads fuel) {field : String × Json}
    (spelled : FieldSpelling field text) (enough : 2 * text.length ≤ fuel)
    (separate : Text.Stops Char.isDigit rest) :
    ∃ label colon behind, readText (skipBlanks (text ++ rest)) = some (field.1, label) ∧
      expect ':' (skipBlanks label) = some colon ∧
      readValue fuel (skipBlanks colon) = some (field.2, behind) ∧
      skipBlanks behind = skipBlanks rest := by
  obtain @⟨name, value, before, label, gap, text, blanksBefore, named, blanksBehind, spelled⟩ :=
    spelled
  have shorter : 2 * text.length ≤ fuel := by
    simp only [List.length_append, List.length_cons] at enough
    omega
  obtain ⟨behind, read, skipped⟩ := reads.document spelled shorter separate
  have solid (others : List Char) : skipBlanks (label ++ others) = label ++ others := by
    obtain ⟨_⟩ := named
    exact skipBlanks_cons rfl _
  have whole : before ++ label ++ gap ++ ':' :: text ++ rest =
      before ++ (label ++ (gap ++ ':' :: (text ++ rest))) := by
    simp only [List.append_assoc, List.cons_append]
  refine ⟨gap ++ ':' :: (text ++ rest), text ++ rest, behind, ?_, ?_, read, skipped⟩
  · rw [whole, skipBlanks_append blanksBefore, solid, readText_of_spelling named]
  · rw [skipBlanks_append blanksBehind, skipBlanks_cons rfl, expect_self]

theorem Reads.fields_succ (reads : Reads fuel) (spelled : FieldsSpelling fields text)
    (enough : 2 * text.length < fuel + 1) :
    readFields (fuel + 1) (text ++ '\x7d' :: rest) = some (fields, '\x7d' :: rest) := by
  cases spelled with
  | last spelled =>
      obtain ⟨label, colon, behind, named, divided, read, skipped⟩ :=
        reads.field spelled (Nat.le_of_lt_succ enough) (Text.stops_cons (c := '\x7d') rfl rest)
      have ends : skipBlanks ('\x7d' :: rest) = '\x7d' :: rest := skipBlanks_cons rfl rest
      simp [readFields, named, divided, read, skipped, ends]
  | @cons field fields text others spelled further =>
      have shorter : 2 * text.length ≤ fuel ∧ 2 * others.length < fuel := by
        simp only [List.length_append, List.length_cons] at enough
        omega
      obtain ⟨label, colon, behind, named, divided, read, skipped⟩ :=
        reads.field spelled shorter.1
          (Text.stops_cons (c := ',') rfl (others ++ '\x7d' :: rest))
      rw [skipBlanks_cons rfl] at skipped
      simp [readFields, named, divided, read, skipped, reads.fields further shorter.2]

/-- The readers find every value, if they may go deep enough. -/
theorem reads (fuel : Nat) : Reads fuel := by
  induction fuel with
  | zero =>
      refine ⟨fun spelled enough _ => ?_, fun _ enough => ?_, fun _ enough => ?_⟩
      · have := spelled.length_pos
        omega
      · exact absurd enough (Nat.not_lt_zero _)
      · exact absurd enough (Nat.not_lt_zero _)
  | succ fuel reads =>
      exact ⟨reads.value_succ, reads.items_succ, reads.fields_succ⟩

/-- Every document is decoded to the value that it stands for. -/
theorem decode_of_document (spelled : Document value text) : decode text = some value := by
  have separate : Text.Stops Char.isDigit [] := Text.stops_nil _
  obtain ⟨behind, read, skipped⟩ :=
    (reads (2 * text.length)).document spelled (Nat.le_refl _) separate
  have ended : skipBlanks [] = [] := rfl
  rw [List.append_nil] at read
  simp [decode, read, skipped, ended]

end Values

end Json

end EnvAudit
