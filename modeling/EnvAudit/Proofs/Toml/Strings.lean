import EnvAudit.Proofs.Toml.Escapes
import EnvAudit.Proofs.Toml.Multiline

/-!
# Written strings

A string is read as it was written, in whichever form that was.
-/

namespace EnvAudit

namespace Toml

namespace Reader

variable {c : Char} {text rest chars : List Char}

section SeveralLines

/-- What may follow quotes in a basic string. -/
def behindQuote : Reader Unit := do
  let _ ← one (· != '"')

theorem multilineBasicString_eq : multilineBasicString =
    labelled "multiline basic string" (do
      literal ['"', '"', '"']
      let _ ← optional newline
      final (body '"' (stretch basicContent) behindQuote)) := by
  simp only [multilineBasicString, body, group, behindQuote, ← bind_stretch]

/-- What may follow quotes in a literal string. -/
def behindApostrophe : Reader Unit := do
  let _ ← literalContent

theorem multilineLiteralString_eq : multilineLiteralString =
    labelled "multiline literal string" (do
      literal ['\'', '\'', '\'']
      let _ ← optional newline
      final (body '\'' (many literalContent) behindApostrophe)) :=
  rfl

theorem newline_done (rest : List Char) : newline ('\n' :: rest) = .done '\n' rest :=
  orElse_done (char_done '\n' rest)

theorem refuses_newline (inLine : c ≠ '\n' ∧ c ≠ '\r') (rest : List Char) :
    Refuses newline (c :: rest) :=
  (refuses_char inLine.1 rest).orElse (refuses_char inLine.2 rest).bind

theorem spaces_done {gap : List Char} (blank : ∀ c ∈ gap, isSpace c = true)
    (stops : Text.Stops isSpace rest) : spaces (gap ++ rest) = .done () rest :=
  bind_done (run_done blank stops)

theorem refuses_escapedNewline_char (different : c ≠ '\\') (rest : List Char) :
    Refuses escapedNewline (c :: rest) :=
  (refuses_char different rest).bind

theorem endsAt_basicContent : EndsAt '"' (stretch basicContent) behindQuote where
  content rest := by
    have noRun : Refuses (someRun isBasic) ('"' :: rest) := refuses_someRun (Text.stops_cons rfl _)
    have noBreak : Refuses escapedNewline ('"' :: rest) :=
      refuses_escapedNewline_char (by decide) rest
    have noEscape : Refuses escaped ('"' :: rest) := (refuses_char (by decide) rest).bind
    have noNewline : Refuses newline ('"' :: rest) := refuses_newline (by decide) rest
    have nothing : Refuses basicContent ('"' :: rest) :=
      noRun.orElse (noBreak.bind.orElse (noEscape.orElse noNewline.bind))
    exact stretch_done_iff.mpr ⟨[], nothing.many, rfl⟩
  following rest := (refuses_one (Text.stops_cons rfl rest)).bind

theorem piece_of_head {content : Reader (List Char)} {meaning : List Char}
    (prepends : Prepends content (c :: text) meaning) (unquoted : c ≠ '"') :
    Piece '"' content behindQuote (c :: text) meaning where
  prepends := prepends
  starts rest := ⟨text ++ rest, bind_done (one_done (by simpa using unquoted) _)⟩
  unquoted rest := Text.stops_cons (by simpa using unquoted) _

theorem CharForm.piece (form : CharForm true c text) :
    Piece '"' (stretch basicContent) behindQuote text [c] := by
  cases form with
  | plain basic =>
      refine piece_of_head (prepends_run basic) ?_
      rintro rfl
      cases basic
  | @escape letter _ code solid inLine reads =>
      refine piece_of_head (prepends_stretch (List.cons_ne_nil _ _) fun others => ?_) (by decide)
      have noRun : Refuses (someRun isBasic) ('\\' :: letter :: code ++ others) :=
        refuses_someRun (Text.stops_cons rfl _)
      -- No blank and no line feed comes behind the backslash, so it breaks no line.
      have noBreak : Refuses escapedNewline ('\\' :: letter :: code ++ others) := by
        have slash := char_done '\\' (letter :: code ++ others)
        have noSpaces :=
          spaces_done (List.forall_mem_nil _) (Text.stops_cons solid (code ++ others))
        exact Refuses.after slash (Refuses.after noSpaces (refuses_newline inLine _).bind)
      have escape : escaped ('\\' :: letter :: code ++ others) = .done [c] others :=
        (bind_done (char_done '\\' _)).trans (bind_done (reads others))
      exact noRun.orElse_apply.trans (noBreak.bind.orElse_apply.trans (orElse_done escape))
  | newline =>
      refine piece_of_head (prepends_stretch (List.cons_ne_nil _ _) fun others => ?_) (by decide)
      have noRun : Refuses (someRun isBasic) ('\n' :: others) :=
        refuses_someRun (Text.stops_cons rfl _)
      have noBreak : Refuses escapedNewline ('\n' :: others) :=
        refuses_escapedNewline_char (by decide) others
      have noEscape : Refuses escaped ('\n' :: others) := (refuses_char (by decide) others).bind
      exact noRun.orElse_apply.trans (noBreak.bind.orElse_apply.trans
        (noEscape.orElse_apply.trans (bind_done (newline_done others))))

theorem escapeChars_quote {multiline : Bool} {allowed before : Nat} (few : before < allowed)
    (rest : List Char) : escapeChars multiline allowed before ('"' :: rest) =
      '"' :: escapeChars multiline allowed (before + 1) rest := by
  rw [escapeChars, if_pos rfl, if_pos few]

/-- Up to two quotes in a row stand for themselves, and a third is escaped, which is a piece. -/
theorem body_escapeChars : (chars : List Char) →
    Body '"' (stretch basicContent) behindQuote (escapeChars true 2 0 chars) chars
  | [] => .nil
  | c :: rest => by
      by_cases first : c = '"'
      · subst first
        rw [escapeChars_quote (by decide)]
        match rest with
        | [] => exact .last (.inl rfl)
        | d :: rest =>
            by_cases second : d = '"'
            · subst second
              rw [escapeChars_quote (by decide)]
              match rest with
              | [] => exact .last (.inr rfl)
              | e :: rest =>
                  obtain ⟨text, form, whole⟩ :=
                    escapeChars_cons true 2 2 e (fun _ => Nat.le_refl 2) rest
                  rw [whole]
                  exact .quoted (.inr rfl) form.piece (body_escapeChars rest)
            · obtain ⟨text, form, whole⟩ :=
                escapeChars_cons true 2 1 d (fun quote => absurd quote second) rest
              rw [whole]
              exact .quoted (.inl rfl) form.piece (body_escapeChars rest)
      · obtain ⟨text, form, whole⟩ :=
          escapeChars_cons true 2 0 c (fun quote => absurd quote first) rest
        rw [whole]
        exact .piece form.piece (body_escapeChars rest)

/-- Without line feeds, no line ends in front of the content. -/
theorem refuses_newline_escapeChars (single : '\n' ∉ chars) (rest : List Char) :
    Refuses newline (escapeChars true 2 0 chars ++ '"' :: rest) := by
  match chars with
  | [] => exact refuses_newline (by decide) rest
  | c :: chars =>
      by_cases quote : c = '"'
      · subst quote
        rw [escapeChars_quote (by decide)]
        exact refuses_newline (by decide) _
      · obtain ⟨text, form, whole⟩ :=
          escapeChars_cons true 2 0 c (fun same => absurd same quote) chars
        rw [whole, List.append_assoc]
        cases form with
        | plain basic =>
            refine refuses_newline ⟨?_, ?_⟩ _
            · rintro rfl
              cases basic
            · rintro rfl
              cases basic
        | escape => exact refuses_newline (by decide) _
        | newline => exact absurd List.mem_cons_self single

theorem multiline_done {quote : Char} {content : Reader (List Char)} {following : Reader Unit}
    (ends : EndsAt quote content following) {text meaning : List Char}
    (wellFormed : Body quote content following text meaning) {hasNewline : Bool}
    (inLine : hasNewline = false →
      ∀ rest, Refuses newline (text ++ quote :: rest))
    (stops : Text.Stops (· == quote) rest) :
    (do
      literal [quote, quote, quote]
      let _ ← optional newline
      final (body quote content following))
        (delimited [quote, quote, quote] hasNewline text ++ rest) = .done meaning rest := by
  have content := final_done (body_done ends wellFormed stops)
  have opening := literal_done [quote, quote, quote]
  cases hasNewline with
  | true =>
      have whole : delimited [quote, quote, quote] true text ++ rest =
          [quote, quote, quote] ++ ('\n' :: (text ++ quote :: quote :: quote :: rest)) := by
        simp [delimited]
      rw [whole]
      exact (bind_done (opening _)).trans
        ((bind_done (optional_done (newline_done _))).trans content)
  | false =>
      have whole : delimited [quote, quote, quote] false text ++ rest =
          [quote, quote, quote] ++ (text ++ quote :: quote :: quote :: rest) := by
        simp [delimited]
      rw [whole]
      exact (bind_done (opening _)).trans ((bind_done (inLine rfl _).optional).trans content)

theorem multilineBasicString_done (stops : Text.Stops (· == '"') rest) :
    multilineBasicString (delimited ['"', '"', '"'] (chars.contains '\n')
      (escapeChars true 2 0 chars) ++ rest) = .done chars rest := by
  rw [multilineBasicString_eq]
  refine mapFault_done (multiline_done endsAt_basicContent (body_escapeChars chars) ?_ stops)
  intro single
  exact refuses_newline_escapeChars (by simpa using single)

theorem literalContent_done (visible : isControl c = false) (different : c ≠ '\'')
    (rest : List Char) : literalContent (c :: rest) = .done c rest := by
  by_cases lineFeed : c = '\n'
  · subst lineFeed
    have noLiteral : Refuses (one isLiteral) ('\n' :: rest) :=
      refuses_one (Text.stops_cons rfl rest)
    exact noLiteral.orElse_apply.trans (newline_done rest)
  · have comment := isComment_of_not_isControl visible lineFeed
    exact orElse_done (one_done (by simp [isLiteral, comment, different]) rest)

theorem refuses_literalContent (rest : List Char) : Refuses literalContent ('\'' :: rest) :=
  (refuses_one (Text.stops_cons rfl rest)).orElse (refuses_newline (by decide) rest)

theorem endsAt_literalContent : EndsAt '\'' (many literalContent) behindApostrophe where
  content rest := (refuses_literalContent rest).many
  following rest := (refuses_literalContent rest).bind

theorem literal_piece (visible : isControl c = false) (different : c ≠ '\'') :
    Piece '\'' (many literalContent) behindApostrophe [c] [c] where
  prepends := prepends_many (List.cons_ne_nil c []) (literalContent_done visible different)
  starts rest := ⟨rest, bind_done (literalContent_done visible different rest)⟩
  unquoted rest := Text.stops_cons (by simpa using different) rest

theorem le_longestRun (current : Nat) (chars : List Char) :
    current ≤ longestRun c current chars := by
  induction chars generalizing current with
  | nil => exact Nat.le_refl current
  | cons other chars ih =>
      rw [longestRun]
      split
      · exact Nat.le_of_succ_le (ih (current + 1))
      · exact Nat.le_max_left _ _

theorem longestRun_self (current : Nat) (chars : List Char) :
    longestRun c current (c :: chars) = longestRun c (current + 1) chars :=
  if_pos rfl

theorem longestRun_other {other : Char} (different : other ≠ c) (current : Nat)
    (chars : List Char) : longestRun c current (other :: chars) =
      max current (longestRun c 0 chars) :=
  if_neg different

theorem body_of_longestRun : (chars : List Char) → (∀ c ∈ chars, isControl c = false) →
    longestRun '\'' 0 chars ≤ 2 → Body '\'' (many literalContent) behindApostrophe chars chars
  | [], _, _ => .nil
  | c :: rest, visible, few => by
      obtain ⟨firstVisible, behindFirst⟩ := List.forall_mem_cons.mp visible
      by_cases first : c = '\''
      · subst first
        rw [longestRun_self] at few
        match rest with
        | [] => exact .last (.inl rfl)
        | d :: rest =>
            obtain ⟨secondVisible, behindSecond⟩ := List.forall_mem_cons.mp behindFirst
            by_cases second : d = '\''
            · subst second
              rw [longestRun_self] at few
              match rest with
              | [] => exact .last (.inr rfl)
              | e :: rest =>
                  obtain ⟨thirdVisible, behindThird⟩ := List.forall_mem_cons.mp behindSecond
                  -- A third quote would make the run too long for this form.
                  have third : e ≠ '\'' := by
                    rintro rfl
                    rw [longestRun_self] at few
                    exact absurd ((le_longestRun _ rest).trans few) (by decide)
                  rw [longestRun_other third] at few
                  exact .quoted (.inr rfl) (literal_piece thirdVisible third)
                    (body_of_longestRun rest behindThird (Nat.max_le.mp few).2)
            · rw [longestRun_other second] at few
              exact .quoted (.inl rfl) (literal_piece secondVisible second)
                (body_of_longestRun rest behindSecond (Nat.max_le.mp few).2)
      · rw [longestRun_other first] at few
        exact .piece (literal_piece firstVisible first)
          (body_of_longestRun rest behindFirst (Nat.max_le.mp few).2)

theorem multilineLiteralString_done (visible : ∀ c ∈ chars, isControl c = false)
    (few : longestRun '\'' 0 chars ≤ 2) (stops : Text.Stops (· == '\'') rest) :
    multilineLiteralString (delimited ['\'', '\'', '\''] (chars.contains '\n') chars ++ rest) =
      .done chars rest := by
  rw [multilineLiteralString_eq]
  refine mapFault_done
    (multiline_done endsAt_literalContent (body_of_longestRun chars visible few) ?_ stops)
  intro single rest
  match chars with
  | [] => exact refuses_newline (by decide) rest
  | c :: chars =>
      refine refuses_newline ⟨?_, ?_⟩ _
      · rintro rfl
        simp at single
      · rintro rfl
        cases visible '\r' List.mem_cons_self

end SeveralLines

section Forms

/-- No quote stands in front. -/
structure Unquoted (rest : List Char) : Prop where
  double : Text.Stops (· == '"') rest
  single : Text.Stops (· == '\'') rest

theorem refuses_multilineBasicString (notTriple : ['"', '"', '"'].isPrefixOf chars = false) :
    Refuses multilineBasicString chars := by
  rw [multilineBasicString_eq]
  exact (refuses_literal notTriple).bind.mapFault

theorem refuses_multilineLiteralString
    (notTriple : ['\'', '\'', '\''].isPrefixOf chars = false) :
    Refuses multilineLiteralString chars := by
  rw [multilineLiteralString_eq]
  exact (refuses_literal notTriple).bind.mapFault

theorem string_basic (chars : List Char) (unquoted : Unquoted rest) :
    string (delimited ['"'] false (escapeChars false 0 0 chars) ++ rest) = .done chars rest := by
  have whole : delimited ['"'] false (escapeChars false 0 0 chars) ++ rest =
      '"' :: (escapeChars false 0 0 chars ++ '"' :: rest) := by
    simp [delimited]
  have notTriple : ['"', '"', '"'].isPrefixOf
      ('"' :: (escapeChars false 0 0 chars ++ '"' :: rest)) = false := by
    rw [List.isPrefixOf_cons_cons_self]
    match chars with
    | [] => simpa [escapeChars, List.isPrefixOf] using isPrefixOf_of_stops unquoted.double []
    | c :: chars =>
        obtain ⟨text, form, shown⟩ := escapeChars_cons false 0 0 c (fun _ => Nat.le_refl 0) chars
        rw [shown, List.append_assoc]
        cases form with
        | plain basic =>
            refine isPrefixOf_of_stops (Text.stops_cons ?_ _) _
            rw [beq_eq_false_iff_ne]
            rintro rfl
            cases basic
        | escape => rfl
        | newline allowed => cases allowed
  rw [whole]
  exact (refuses_multilineBasicString notTriple).orElse_apply.trans
    (orElse_done (basicString_done chars rest))

theorem refuses_basicString {c : Char} (notQuote : c ≠ '"') (rest : List Char) :
    Refuses multilineBasicString (c :: rest) ∧ Refuses basicString (c :: rest) := by
  have different : ('"' == c) = false := beq_eq_false_iff_ne.mpr notQuote.symm
  exact ⟨refuses_multilineBasicString (by simp [List.isPrefixOf, different]),
    (refuses_char notQuote rest).bind⟩

theorem string_literal (plain : ∀ c ∈ chars, isLiteral c = true) (unquoted : Unquoted rest) :
    string (delimited ['\''] false chars ++ rest) = .done chars rest := by
  have whole : delimited ['\''] false chars ++ rest = '\'' :: (chars ++ '\'' :: rest) := by
    simp [delimited]
  have notTriple : ['\'', '\'', '\''].isPrefixOf ('\'' :: (chars ++ '\'' :: rest)) = false := by
    rw [List.isPrefixOf_cons_cons_self]
    match chars with
    | [] => simpa [List.isPrefixOf] using isPrefixOf_of_stops unquoted.single []
    | c :: chars =>
        refine isPrefixOf_of_stops (Text.stops_cons ?_ _) _
        rw [beq_eq_false_iff_ne]
        rintro rfl
        cases plain '\'' List.mem_cons_self
  obtain ⟨notMultiline, notBasic⟩ := refuses_basicString (c := '\'') (by decide)
    (chars ++ '\'' :: rest)
  rw [whole]
  exact notMultiline.orElse_apply.trans (notBasic.orElse_apply.trans
    ((refuses_multilineLiteralString notTriple).orElse_apply.trans
      (literalString_done plain rest)))

theorem string_multilineLiteral (visible : ∀ c ∈ chars, isControl c = false)
    (few : longestRun '\'' 0 chars ≤ 2) (unquoted : Unquoted rest) :
    string (delimited ['\'', '\'', '\''] (chars.contains '\n') chars ++ rest) =
      .done chars rest := by
  have reads := multilineLiteralString_done visible few unquoted.single
  obtain ⟨notMultiline, notBasic⟩ := refuses_basicString (c := '\'') (by decide)
    (['\'', '\''] ++ (if chars.contains '\n' then ['\n'] else []) ++ chars ++
      ['\'', '\'', '\''] ++ rest)
  exact notMultiline.orElse_apply.trans (notBasic.orElse_apply.trans (orElse_done reads))

theorem ne_of_longestRun_eq_zero (none : longestRun c 0 chars = 0) :
    ∀ other ∈ chars, other ≠ c := by
  induction chars with
  | nil => simp
  | cons first chars ih =>
      have different : first ≠ c := by
        rintro rfl
        rw [longestRun_self] at none
        exact absurd ((le_longestRun _ chars).trans none.le) (by decide)
      rw [longestRun_other different, Nat.max_eq_zero_iff] at none
      exact List.forall_mem_cons.mpr ⟨different, ih none.2⟩

theorem isLiteral_of_form (form : (StringShape.of chars).form = .literal) :
    ∀ c ∈ chars, isLiteral c = true := by
  have shape : (StringShape.of chars).isLiteral = true := by
    unfold StringShape.form at form
    split_ifs at form
    assumption
  simp only [StringShape.isLiteral, StringShape.of, Bool.and_eq_true, Bool.not_eq_true',
    decide_eq_true_eq, List.any_eq_false, Bool.not_eq_true, List.contains_eq_mem,
    decide_eq_false_iff_not] at shape
  obtain ⟨⟨visible, unquoted⟩, single⟩ := shape
  intro c inside
  have comment := isComment_of_not_isControl (visible c inside) (fun same => single (same ▸ inside))
  simp [isLiteral, comment, ne_of_longestRun_eq_zero unquoted c inside]

theorem fits_of_form (form : (StringShape.of chars).form = .multilineLiteral) :
    (∀ c ∈ chars, isControl c = false) ∧ longestRun '\'' 0 chars ≤ 2 := by
  have shape : (StringShape.of chars).isMultilineLiteral = true := by
    unfold StringShape.form at form
    split_ifs at form
    assumption
  simpa [StringShape.isMultilineLiteral, StringShape.of] using shape

/-- A string is read as it was written. -/
theorem string_writeString (chars : List Char) (unquoted : Unquoted rest) :
    string (writeString chars ++ rest) = .done chars rest := by
  rw [writeString]
  cases form : (StringShape.of chars).form with
  | basic => exact string_basic chars unquoted
  | literal => exact string_literal (isLiteral_of_form form) unquoted
  | multilineBasic => exact orElse_done (multilineBasicString_done unquoted.double)
  | multilineLiteral =>
      obtain ⟨visible, few⟩ := fits_of_form form
      exact string_multilineLiteral visible few unquoted

end Forms

end Reader

end Toml

end EnvAudit
