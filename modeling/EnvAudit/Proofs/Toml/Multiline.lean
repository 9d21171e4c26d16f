import EnvAudit.Proofs.Toml.Stretch

/-!
# Strings on several lines

Between delimiters of three quotes, one or two quotes stand for themselves: before a piece of the
content, or at the very end.
-/

namespace EnvAudit

namespace Toml

namespace Reader

variable {quote : Char} {content : Reader (List Char)} {following : Reader Unit}
variable {text meaning chars rest : List Char}

/-- Quotes and the content behind them. -/
def group (quote : Char) (content : Reader (List Char)) (following : Reader Unit) :
    Reader (List Char) := do
  let quotes ← quotesBefore quote following
  return quotes ++ (← content)

/-- What stands behind the delimiter, with the other delimiter. -/
def body (quote : Char) (content : Reader (List Char)) (following : Reader Unit) :
    Reader (List Char) := do
  let delimiter := literal [quote, quote, quote]
  let first ← content
  let others ← many (group quote content following)
  let last ← optional (quotesBefore quote delimiter)
  delimiter
  return first ++ others.flatten ++ last.getD []

/-- Content ends at a quote, and no piece of content begins with one. -/
structure EndsAt (quote : Char) (content : Reader (List Char)) (following : Reader Unit) :
    Prop where
  content (rest : List Char) : content (quote :: rest) = .done [] (quote :: rest)
  following (rest : List Char) : Refuses following (quote :: rest)

/-- So few quotes stand for themselves. -/
def Few (quote : Char) (quotes : List Char) : Prop :=
  quotes = [quote] ∨ quotes = [quote, quote]

/-- A piece of content, which may stand behind quotes. -/
structure Piece (quote : Char) (content : Reader (List Char)) (following : Reader Unit)
    (text meaning : List Char) : Prop where
  prepends : Prepends content text meaning
  starts (rest : List Char) : ∃ after, following (text ++ rest) = .done () after
  unquoted (rest : List Char) : Text.Stops (· == quote) (text ++ rest)

/-- Pieces of content with quotes between them. -/
inductive Body (quote : Char) (content : Reader (List Char)) (following : Reader Unit) :
    List Char → List Char → Prop
  | nil : Body quote content following [] []
  | last {quotes : List Char} (few : Few quote quotes) :
      Body quote content following quotes quotes
  | piece {text others meaning further : List Char}
      (piece : Piece quote content following text meaning)
      (behind : Body quote content following others further) :
      Body quote content following (text ++ others) (meaning ++ further)
  | quoted {quotes text others meaning further : List Char} (few : Few quote quotes)
      (piece : Piece quote content following text meaning)
      (behind : Body quote content following others further) :
      Body quote content following (quotes ++ (text ++ others)) (quotes ++ (meaning ++ further))

section Quotes

theorem refuses_quoted_of_quotes {value : List Char} {next : Reader Unit} {after : List Char}
    (quotes : literal value chars = .done () after) (refuses : Refuses next after) :
    Refuses (do literal value; ahead next; return value) chars := by
  have behind : Refuses (do ahead next; return value) after := refuses.ahead.bind
  exact behind.after quotes

theorem quoted_done {value : List Char} {next : Reader Unit} {after : List Char}
    (follows : next chars = .done () after) :
    (do literal value; ahead next; return value : Reader (List Char)) (value ++ chars) =
      .done value chars := by
  rw [bind_done (literal_done value chars), bind_done (ahead_done follows)]
  rfl

/-- Quotes before a piece are taken if no quote begins the piece. -/
theorem quotesBefore_done {quotes after : List Char} (few : Few quote quotes)
    (stops : Text.Stops (· == quote) chars) (follows : following chars = .done () after) :
    quotesBefore quote following (quotes ++ chars) = .done quotes chars := by
  rcases few with rfl | rfl
  · have single : Refuses (literal [quote, quote]) ([quote] ++ chars) := by
      apply refuses_literal
      simpa [List.isPrefixOf] using isPrefixOf_of_stops stops []
    exact single.bind.orElse_apply.trans (quoted_done follows)
  · exact orElse_done (quoted_done follows)

theorem refuses_quotesBefore (ends : EndsAt quote content following) (rest : List Char) :
    Refuses (quotesBefore quote following) (quote :: quote :: quote :: rest) := by
  refine Refuses.orElse ?_ ?_
  · exact refuses_quoted_of_quotes (literal_done [quote, quote] (quote :: rest)) (ends.following _)
  · exact refuses_quoted_of_quotes (literal_done [quote] (quote :: quote :: rest))
      (ends.following _)

/-- The last quotes are those before the delimiter. -/
theorem optional_quotesBefore {last : List Char} (few : last = [] ∨ Few quote last)
    (stops : Text.Stops (· == quote) rest) :
    ∃ found : Option (List Char), found.getD [] = last ∧
      optional (quotesBefore quote (literal [quote, quote, quote]))
        (last ++ quote :: quote :: quote :: rest) =
          .done found (quote :: quote :: quote :: rest) := by
  have short (more : List Char) : (quote :: more).isPrefixOf rest = false :=
    isPrefixOf_of_stops stops more
  have one : Refuses (literal [quote, quote, quote]) (quote :: rest) :=
    refuses_literal (by simpa [List.isPrefixOf] using short [quote])
  have two : Refuses (literal [quote, quote, quote]) (quote :: quote :: rest) :=
    refuses_literal (by simpa [List.isPrefixOf] using short [])
  have three := literal_done [quote, quote, quote] rest
  rcases few with rfl | rfl | rfl
  · have refuses : Refuses (quotesBefore quote (literal [quote, quote, quote]))
        (quote :: quote :: quote :: rest) :=
      Refuses.orElse
        (refuses_quoted_of_quotes (literal_done [quote, quote] (quote :: rest)) one)
        (refuses_quoted_of_quotes (literal_done [quote] (quote :: quote :: rest)) two)
    exact ⟨none, rfl, refuses.optional⟩
  · refine ⟨some [quote], rfl, optional_done ?_⟩
    have notTwo := refuses_quoted_of_quotes
      (literal_done [quote, quote] (quote :: quote :: rest)) two
    exact notTwo.orElse_apply.trans (quoted_done three)
  · exact ⟨some [quote, quote], rfl, optional_done (orElse_done (quoted_done three))⟩

end Quotes

/-- The parts that a body has been read in. -/
structure Taken (quote : Char) (content : Reader (List Char)) (following : Reader Unit)
    (chars meaning rest first between : List Char) (others : List (List Char))
    (last : List Char) : Prop where
  reads : content chars = .done first between
  shorter : between.length ≤ chars.length
  groups : many (group quote content following) between =
    .done others (last ++ quote :: quote :: quote :: rest)
  few : last = [] ∨ Few quote last
  whole : meaning = first ++ others.flatten ++ last

theorem taken_last (ends : EndsAt quote content following) {last : List Char}
    (few : last = [] ∨ Few quote last) (rest : List Char) :
    Taken quote content following (last ++ quote :: quote :: quote :: rest) last rest []
      (last ++ quote :: quote :: quote :: rest) [] last := by
  have quoted : ∃ more, last ++ quote :: quote :: quote :: rest =
      quote :: quote :: quote :: more := by
    rcases few with rfl | rfl | rfl <;> exact ⟨_, rfl⟩
  obtain ⟨more, quoted⟩ := quoted
  refine ⟨?_, Nat.le_refl _, ?_, few, rfl⟩
  · rw [quoted]
    exact ends.content _
  · have refuses : Refuses (group quote content following) (quote :: quote :: quote :: more) :=
      (refuses_quotesBefore ends more).bind
    rw [quoted]
    exact refuses.many

theorem taken_of_body (ends : EndsAt quote content following)
    (body : Body quote content following text meaning) (rest : List Char) :
    ∃ first between others last,
      Taken quote content following (text ++ quote :: quote :: quote :: rest) meaning rest first
        between others last := by
  induction body with
  | nil => exact ⟨_, _, _, _, taken_last ends (.inl rfl) rest⟩
  | last few => exact ⟨_, _, _, _, taken_last ends (.inr few) rest⟩
  | @piece text behindText meaning further piece behind ih =>
      obtain ⟨first, between, others, last, taken⟩ := ih
      refine ⟨meaning ++ first, between, others, last, ?_, ?_, taken.groups, taken.few, ?_⟩
      · rw [List.append_assoc]
        exact piece.prepends _ _ _ taken.reads
      · rw [List.append_assoc, List.length_append]
        exact Nat.le_add_left_of_le taken.shorter
      · rw [taken.whole]
        simp only [List.append_assoc]
  | @quoted quotes text behindText meaning further few piece behind ih =>
      obtain ⟨first, between, others, last, taken⟩ := ih
      set behindQuotes := text ++ (behindText ++ quote :: quote :: quote :: rest) with known
      have whole : quotes ++ (text ++ behindText) ++ quote :: quote :: quote :: rest =
          quotes ++ behindQuotes := by
        simp only [known, List.append_assoc]
      obtain ⟨after, starts⟩ := piece.starts (behindText ++ quote :: quote :: quote :: rest)
      have grouped : group quote content following (quotes ++ behindQuotes) =
          .done (quotes ++ (meaning ++ first)) between := by
        have quoted := quotesBefore_done few (piece.unquoted _) starts
        have inner := piece.prepends _ _ _ taken.reads
        exact (bind_done quoted).trans (bind_done inner)
      have shorter : between.length < (quotes ++ behindQuotes).length := by
        have some : 0 < quotes.length := by rcases few with rfl | rfl <;> simp
        have := taken.shorter
        simp only [known, List.length_append] at this ⊢
        omega
      have stopped : content (quotes ++ behindQuotes) = .done [] (quotes ++ behindQuotes) := by
        rcases few with rfl | rfl <;> exact ends.content _
      rw [whole]
      refine ⟨[], _, (quotes ++ (meaning ++ first)) :: others, last, stopped, Nat.le_refl _,
        many_done grouped shorter taken.groups, taken.few, ?_⟩
      rw [taken.whole]
      simp only [List.flatten_cons, List.append_assoc, List.nil_append]

theorem body_done (ends : EndsAt quote content following)
    (wellFormed : Body quote content following text meaning)
    (stops : Text.Stops (· == quote) rest) :
    body quote content following (text ++ quote :: quote :: quote :: rest) =
      .done meaning rest := by
  obtain ⟨first, between, others, last, taken⟩ := taken_of_body ends wellFormed rest
  obtain ⟨found, given, optional⟩ := optional_quotesBefore taken.few stops
  have delimiter := literal_done [quote, quote, quote] rest
  rw [taken.whole, ← given]
  exact (bind_done taken.reads).trans ((bind_done taken.groups).trans
    ((bind_done optional).trans (bind_done delimiter)))

end Reader

end Toml

end EnvAudit
