import EnvAudit.Proofs.Toml.Stretch
import EnvAudit.Toml.Written

/-!
# Escapes

In double quotes, each character is written as itself or as an escape that the reader takes for
the character.
-/

namespace EnvAudit

namespace Toml

/-- Other characters than controls and line feeds may stand in a comment. -/
theorem isComment_of_not_isControl {c : Char} (visible : isControl c = false)
    (notNewline : c ≠ '\n') : isComment c = true := by
  by_cases tab : c = '\t'
  · rw [tab]
    rfl
  have notLow : ¬ c < ' ' := by
    intro low
    simp [isControl, low, tab, notNewline] at visible
  have notDelete : c ≠ '\x7f' := by
    rintro rfl
    simp [isControl] at visible
  have notDeleteCode : c.toNat ≠ 0x7f := fun same => notDelete (Char.toNat_inj.mp same)
  have lowCode : 0x20 ≤ c.toNat := Char.not_lt.mp notLow
  have either : c.toNat ≤ 0x7e ∨ 0x80 ≤ c.toNat := by omega
  rw [isComment, Bool.or_eq_true, Bool.or_eq_true, Bool.and_eq_true, decide_eq_true_eq,
    decide_eq_true_eq, decide_eq_true_eq]
  rcases either with below | above
  · exact .inl (.inr ⟨lowCode, below⟩)
  · exact .inr above

theorem toNat_lt_of_isControl {c : Char} (control : isControl c = true) : c.toNat < 0x80 := by
  rw [isControl, Bool.or_eq_true, Bool.and_eq_true, Bool.and_eq_true, decide_eq_true_eq,
    beq_iff_eq] at control
  rcases control with ⟨⟨low, -⟩, -⟩ | rfl
  · exact Nat.lt_trans (show c.toNat < 0x20 from low) (by decide)
  · decide

namespace Reader

variable {c : Char} {code text rest chars : List Char}

/-- What a character may look like in double quotes. -/
inductive CharForm (multiline : Bool) : Char → List Char → Prop
  | plain {c : Char} (basic : isBasic c = true) : CharForm multiline c [c]
  | escape {letter c : Char} {code : List Char} (solid : isSpace letter = false)
      (inLine : letter ≠ '\n' ∧ letter ≠ '\r')
      (reads : ∀ rest, escapeLetter (letter :: code ++ rest) = .done c rest) :
      CharForm multiline c ('\\' :: letter :: code)
  | newline (allowed : multiline = true) : CharForm multiline '\n' ['\n']

theorem fourDigits_of_low :
    ∀ code < 0x80, (fourDigits code).length = 4 ∧ (fourDigits code).all isHexDigit = true ∧
      digitsValue 16 (fourDigits code) = code ∧ code.isValidChar := by
  decide

theorem escapeLetter_code (low : c.toNat < 0x80) (rest : List Char) :
    escapeLetter ('u' :: fourDigits c.toNat ++ rest) = .done c rest := by
  obtain ⟨length, hexadecimal, value, valid⟩ := fourDigits_of_low c.toNat low
  have digits := exactly_done length (List.all_eq_true.mp hexadecimal) rest
  have named : charOf (digitsValue 16 (fourDigits c.toNat)) = .ok c := by
    rw [value, charOf, if_pos valid, Char.ofNat_toNat]
  exact mapFault_done (final_done (check_done (bind_done digits) named))

theorem escapeChars_cons (multiline : Bool) (allowed before : Nat) (c : Char)
    (escapes : c = '"' → allowed ≤ before) (rest : List Char) :
    ∃ text, CharForm multiline c text ∧ escapeChars multiline allowed before (c :: rest) =
      text ++ escapeChars multiline allowed 0 rest := by
  have letter {c : Char} (letter : Char) (solid : isSpace letter = false)
      (inLine : letter ≠ '\n' ∧ letter ≠ '\r')
      (reads : ∀ rest, escapeLetter (letter :: rest) = .done c rest) :
      CharForm multiline c ['\\', letter] := .escape solid inLine reads
  rw [escapeChars]
  split
  · next quote =>
    rw [if_neg (Nat.not_lt.mpr (escapes quote)), quote]
    exact ⟨_, letter '"' rfl (by decide) fun _ => rfl, rfl⟩
  · next notQuote =>
    refine ⟨_, ?_, rfl⟩
    split_ifs with backspace tab lineFeed several formFeed carriageReturn backslash control
    · exact backspace ▸ letter 'b' rfl (by decide) fun _ => rfl
    · exact tab ▸ letter 't' rfl (by decide) fun _ => rfl
    · exact lineFeed ▸ .newline several
    · exact lineFeed ▸ letter 'n' rfl (by decide) fun _ => rfl
    · exact formFeed ▸ letter 'f' rfl (by decide) fun _ => rfl
    · exact carriageReturn ▸ letter 'r' rfl (by decide) fun _ => rfl
    · exact backslash ▸ letter '\\' rfl (by decide) fun _ => rfl
    · exact .escape rfl (by decide) (escapeLetter_code (toNat_lt_of_isControl control))
    · have visible := isComment_of_not_isControl (by simpa using control) lineFeed
      refine .plain ?_
      simp [isBasic, visible, notQuote, backslash]

section SingleLine

theorem CharForm.prepends (form : CharForm false c text) :
    Prepends (stretch ((someRun isBasic).orElse escaped)) text [c] := by
  cases form with
  | plain basic => exact prepends_run basic
  | @escape letter _ code _ _ reads =>
      refine prepends_stretch (List.cons_ne_nil _ _) fun others => ?_
      have noRun : Refuses (someRun isBasic) ('\\' :: letter :: code ++ others) :=
        refuses_someRun (Text.stops_cons rfl _)
      exact noRun.orElse_apply.trans
        ((bind_done (char_done '\\' (letter :: code ++ others))).trans (bind_done (reads others)))
  | newline allowed => cases allowed

theorem prepends_escapeChars (chars : List Char) :
    Prepends (stretch ((someRun isBasic).orElse escaped)) (escapeChars false 0 0 chars) chars := by
  induction chars with
  | nil => exact .nil _
  | cons c chars ih =>
      obtain ⟨text, form, whole⟩ := escapeChars_cons false 0 0 c (fun _ => Nat.le_refl 0) chars
      rw [whole]
      exact form.prepends.append ih

theorem basicString_done (chars rest : List Char) :
    basicString ('"' :: (escapeChars false 0 0 chars ++ '"' :: rest)) = .done chars rest := by
  have ends : stretch ((someRun isBasic).orElse escaped) ('"' :: rest) =
      .done [] ('"' :: rest) := by
    have noRun : Refuses (someRun isBasic) ('"' :: rest) := refuses_someRun (Text.stops_cons rfl _)
    have noEscape : Refuses escaped ('"' :: rest) := (refuses_char (by decide) rest).bind
    exact stretch_done_iff.mpr ⟨[], (noRun.orElse noEscape).many, rfl⟩
  have content := prepends_escapeChars chars _ _ _ ends
  obtain ⟨parts, reads, whole⟩ := stretch_done_iff.mp content
  rw [List.append_nil] at whole
  have closing : labelled "basic string" (char '"').final ('"' :: rest) = .done '"' rest :=
    mapFault_done (final_done (char_done '"' rest))
  have string : basicString ('"' :: (escapeChars false 0 0 chars ++ '"' :: rest)) =
      .done parts.flatten rest :=
    (bind_done (char_done '"' _)).trans ((bind_done reads).trans (bind_done closing))
  rwa [whole] at string

theorem literalString_done (plain : ∀ c ∈ chars, isLiteral c = true) (rest : List Char) :
    literalString ('\'' :: (chars ++ '\'' :: rest)) = .done chars rest := by
  have content := run_done plain (Text.stops_cons (c := '\'') rfl rest)
  have closing := final_done (char_done '\'' rest)
  exact mapFault_done
    ((bind_done (char_done '\'' _)).trans ((bind_done content).trans (bind_done closing)))

end SingleLine

end Reader

end Toml

end EnvAudit
