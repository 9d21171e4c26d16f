import EnvAudit.Config.Encode
import EnvAudit.Proofs.Toml.Numbers
import EnvAudit.Proofs.Toml.Strings

/-!
# Written values

The values that settings have are read as they were written.
-/

namespace EnvAudit

namespace Toml

/-- An item is a string with the text. -/
def ShowsText (text : String) (item : Item) : Prop :=
  ∃ span, item = .string text span

/-- A value that a setting can have. -/
inductive Plain where
  | text (value : String)
  | texts (values : List String)
  | natural (value : Nat)
  | boolean (value : Bool)

namespace Plain

def write : Plain → List Char
  | text value => Config.writeText value
  | texts values => Config.writeStrings values
  | natural value => Nat.toDigits 10 value
  | boolean value => Config.writeBool value

/-- The value is no number that is too large. -/
def Writable : Plain → Prop
  | natural value => value ≤ Config.maxInteger
  | _ => True

/-- An item has the value, wherever it stands. -/
inductive Shows : Plain → Item → Prop
  | text {value : String} {span : Span} : Shows (text value) (.string value span)
  | texts {values : List String} {items : List Item} {span : Span}
      (each : List.Forall₂ ShowsText values items) : Shows (texts values) (.array items span)
  | natural {value : Nat} {span : Span} : Shows (natural value) (.integer value span)
  | boolean {value : Bool} {span : Span} : Shows (boolean value) (.boolean value span)

end Plain

namespace Reader

variable {chars rest : List Char} {c : Char} {depth : Nat}

theorem value_done {make : Span → Item} (reads : bareValue depth chars = .done make rest) :
    ∃ span, value (depth + 1) chars = .done (make span) rest := by
  refine ⟨⟨chars.length, rest.length⟩, ?_⟩
  rw [value]
  exact bind_done (spanned_done reads)

theorem writeString_quoted (chars : List Char) :
    ∃ c more, writeString chars = c :: more ∧ (c = '"' ∨ c = '\'') := by
  rw [writeString]
  cases (StringShape.of chars).form with
  | basic => exact ⟨_, _, rfl, .inl rfl⟩
  | literal => exact ⟨_, _, rfl, .inr rfl⟩
  | multilineBasic => exact ⟨_, _, rfl, .inl rfl⟩
  | multilineLiteral => exact ⟨_, _, rfl, .inr rfl⟩

theorem bareValue_text (depth : Nat) (text : String) (unquoted : Unquoted rest) :
    bareValue depth (Config.writeText text ++ rest) = .done (.string text) rest := by
  obtain ⟨c, more, whole, quote⟩ := writeString_quoted text.toList
  have reads := string_writeString text.toList unquoted
  rw [Config.writeText]
  rw [whole] at reads ⊢
  have isQuote : (c == '"' || c == '\'') = true := by simpa using quote
  rw [bareValue, List.cons_append, List.head?_cons]
  simp only [isQuote, if_true]
  refine (bind_done reads).trans ?_
  rw [String.ofList_toList]
  rfl

theorem unlessString_done {α : Type} {reader : Reader α} {value : α}
    (reads : reader chars = .done value rest) : unlessString reader chars = .done value rest :=
  mapFault_done (mapFault_done (mapFault_done reads))

theorem bareValue_boolean (value : Bool) (rest : List Char) :
    bareValue depth (Config.writeBool value ++ rest) = .done (.boolean value) rest := by
  cases value with
  | true =>
      rw [bareValue]
      exact bind_done (unlessString_done (final_done (literal_done "true".toList rest)))
  | false =>
      rw [bareValue]
      exact bind_done (unlessString_done (final_done (literal_done "false".toList rest)))

theorem bareValue_natural {value : Nat} (bounded : value ≤ Config.maxInteger)
    (rest : List Char) : bareValue depth (Nat.toDigits 10 value ++ '\n' :: rest) =
      .done (.integer value) ('\n' :: rest) := by
  have reads := numeral_toDigits value rest (Int.ofNat_le.mpr bounded)
  obtain ⟨first, others, whole⟩ := List.exists_cons_of_ne_nil
    (Nat.toDigits_ne_nil (b := 10) (n := value))
  have digit : isDigit first = true :=
    isDigit_of_mem_toDigits (whole ▸ List.mem_cons_self)
  rw [whole] at reads ⊢
  rw [bareValue, List.cons_append, List.head?_cons]
  have notQuote : (first == '"' || first == '\'') = false := by
    rw [beq_of_isDigit digit rfl, beq_of_isDigit digit rfl]
    rfl
  have notBracket : (first == '[') = false := beq_of_isDigit digit rfl
  have notBrace : (first == '\x7b') = false := beq_of_isDigit digit rfl
  simp only [notQuote, notBracket, notBrace, digit, Bool.or_true, if_true]
  exact reads

theorem refuses_value_bracket (rest : List Char) : Refuses (value (depth + 1)) (']' :: rest) := by
  have refuses : Refuses (bareValue depth) (']' :: rest) := by
    have nothing : Refuses (refuse : Reader (Span → Item)) (']' :: rest) := ⟨_, rfl⟩
    have noString : Refuses (unlessString (refuse : Reader (Span → Item))) (']' :: rest) := by
      rw [unlessString, expecting, expecting, labelled]
      exact nothing.mapFault.mapFault.mapFault
    obtain ⟨fault, refuses⟩ := noString
    exact ⟨fault, by rw [bareValue]; exact refuses⟩
  rw [Refuses, value]
  exact refuses.spanned.bind

section Gaps

/-- No gap begins with the character. -/
def Solid (c : Char) : Prop :=
  isSpace c = false ∧ (c ≠ '\n' ∧ c ≠ '\r') ∧ c ≠ '#'

theorem refuses_gap (solid : Solid c) (rest : List Char) : Refuses gap (c :: rest) := by
  have noSpace : Refuses (someRun isSpace) (c :: rest) :=
    refuses_someRun (Text.stops_cons solid.1 rest)
  have noNewline : Refuses newline (c :: rest) := refuses_newline solid.2.1 rest
  have noComment : Refuses comment (c :: rest) := (refuses_char solid.2.2 rest).bind
  exact noSpace.bind.orElse (noNewline.bind.orElse noComment.bind)

theorem gaps_of_many {units : List Unit} (reads : many gap chars = .done units (c :: rest))
    (solid : Solid c) : gaps chars = .done () (c :: rest) := by
  have noFault : Refuses (one fun c => c == '#' || c == '\r') (c :: rest) :=
    refuses_one (Text.stops_cons (by simp [solid.2.1.2, solid.2.2]) rest)
  exact (bind_done reads).trans (bind_done (ahead_done noFault.optional))

theorem gaps_solid (solid : Solid c) (rest : List Char) :
    gaps (c :: rest) = .done () (c :: rest) :=
  gaps_of_many (refuses_gap solid rest).many solid

theorem gaps_newline {indent : List Char} (blank : ∀ c ∈ indent, isSpace c = true)
    (solid : Solid c) (rest : List Char) :
    gaps ('\n' :: (indent ++ c :: rest)) = .done () (c :: rest) := by
  have nothing := (refuses_gap solid rest).many
  have line : gap ('\n' :: (indent ++ c :: rest)) = .done () (indent ++ c :: rest) := by
    have noSpace : Refuses (someRun isSpace) ('\n' :: (indent ++ c :: rest)) :=
      refuses_someRun (Text.stops_cons rfl _)
    exact noSpace.bind.orElse_apply.trans (orElse_done (bind_done (newline_done _)))
  have behind : ∃ units, many gap (indent ++ c :: rest) = .done units (c :: rest) := by
    by_cases empty : indent = []
    · exact ⟨[], by rw [empty]; exact nothing⟩
    · have spaces : gap (indent ++ c :: rest) = .done () (c :: rest) :=
        orElse_done (bind_done (someRun_done empty blank (Text.stops_cons solid.1 rest)))
      have := List.length_pos_iff.mpr empty
      exact ⟨_, many_done spaces (by rw [List.length_append]; omega) nothing⟩
  obtain ⟨units, behind⟩ := behind
  exact gaps_of_many (many_done line (Nat.lt_succ_self _) behind) solid

end Gaps

section Arrays

/-- An item of an array with the gaps around it. -/
def arrayItem (value : Reader Item) : Reader Item := do
  gaps
  let item ← value
  gaps
  return item

/-- The characters that may stand behind an item. -/
def EndsItem (c : Char) : Prop :=
  c = ',' ∨ c = ']'

theorem EndsItem.solid (ends : EndsItem c) : Solid c := by
  rcases ends with rfl | rfl <;> exact ⟨rfl, by decide, by decide⟩

theorem EndsItem.unquoted (ends : EndsItem c) (rest : List Char) : Unquoted (c :: rest) := by
  rcases ends with rfl | rfl <;> exact ⟨Text.stops_cons rfl rest, Text.stops_cons rfl rest⟩

/-- What stands before an item: nothing, or the end of a line with an indentation. -/
inductive Lead : List Char → Prop
  | nothing : Lead []
  | newline {indent : List Char} (blank : ∀ c ∈ indent, isSpace c = true) : Lead ('\n' :: indent)

theorem Lead.gaps_done {lead : List Char} (leads : Lead lead) (solid : Solid c)
    (rest : List Char) : gaps (lead ++ c :: rest) = .done () (c :: rest) := by
  cases leads with
  | nothing => exact gaps_solid solid rest
  | newline blank => exact gaps_newline blank solid rest

theorem arrayItem_done (depth : Nat) {lead : List Char} (leads : Lead lead) (text : String)
    (ends : EndsItem c) (rest : List Char) : ∃ item, ShowsText text item ∧
      arrayItem (value (depth + 1)) (lead ++ (Config.writeText text ++ c :: rest)) =
        .done item (c :: rest) := by
  obtain ⟨span, reads⟩ := value_done (bareValue_text depth text (ends.unquoted rest))
  refine ⟨.string text span, ⟨span, rfl⟩, ?_⟩
  obtain ⟨quote, more, whole, isQuote⟩ := writeString_quoted text.toList
  have solid : Solid quote := by
    rcases isQuote with rfl | rfl <;> exact ⟨rfl, by decide, by decide⟩
  have before : gaps (lead ++ (Config.writeText text ++ c :: rest)) =
      .done () (Config.writeText text ++ c :: rest) := by
    rw [Config.writeText, whole]
    exact leads.gaps_done solid _
  exact (bind_done before).trans ((bind_done reads).trans (bind_done (gaps_solid ends.solid rest)))

/-- An item with the sign before it. -/
def furtherItem (value : Reader Item) : Reader Item := do
  let _ ← char ','
  arrayItem value

/-- Further items, each on a line of its own. -/
def furtherTexts (lead : List Char) (texts : List String) : List Char :=
  texts.flatMap fun text => ',' :: (lead ++ Config.writeText text)

/-- Whatever comes next begins with a character that may stand behind an item. -/
theorem exists_cons_furtherTexts (ends : EndsItem c) (lead : List Char) (texts : List String)
    (rest : List Char) :
    ∃ d more, furtherTexts lead texts ++ c :: rest = d :: more ∧ EndsItem d := by
  cases texts with
  | nil => exact ⟨c, rest, rfl, ends⟩
  | cons text texts => exact ⟨',', _, rfl, .inl rfl⟩

theorem furtherItems_done {lead : List Char} (leads : Lead lead) (ends : EndsItem c)
    (last : Refuses (furtherItem (value (depth + 1))) (c :: rest)) (texts : List String) :
    ∃ items, List.Forall₂ ShowsText texts items ∧
      many (furtherItem (value (depth + 1))) (furtherTexts lead texts ++ c :: rest) =
        .done items (c :: rest) := by
  induction texts with
  | nil => exact ⟨[], .nil, last.many⟩
  | cons text texts ih =>
      obtain ⟨items, shows, others⟩ := ih
      obtain ⟨d, more, next, endsNext⟩ := exists_cons_furtherTexts ends lead texts rest
      obtain ⟨item, showsText, reads⟩ := arrayItem_done depth leads text endsNext more
      have whole : furtherTexts lead (text :: texts) ++ c :: rest =
          ',' :: (lead ++ (Config.writeText text ++ d :: more)) := by
        simp [furtherTexts, ← next]
      have first : furtherItem (value (depth + 1)) (',' :: (lead ++
          (Config.writeText text ++ d :: more))) = .done item (d :: more) :=
        (bind_done (char_done ',' _)).trans reads
      refine ⟨item :: items, .cons showsText shows, ?_⟩
      rw [whole]
      refine many_done first ?_ (next ▸ others)
      simp only [List.length_cons, List.length_append]
      omega

/-- What stands behind the last item: the bracket, or a comma and the bracket on a line of its
own. -/
inductive Tail (rest : List Char) : List Char → Prop
  | bracket : Tail rest (']' :: rest)
  | line : Tail rest (',' :: '\n' :: ']' :: rest)

theorem Tail.exists_cons {tail : List Char} (isTail : Tail rest tail) :
    ∃ c more, tail = c :: more ∧ EndsItem c := by
  cases isTail with
  | bracket => exact ⟨_, _, rfl, .inr rfl⟩
  | line => exact ⟨_, _, rfl, .inl rfl⟩

theorem gaps_bracket {lead : List Char} (leads : Lead lead) (rest : List Char) :
    gaps (lead ++ ']' :: rest) = .done () (']' :: rest) :=
  leads.gaps_done (EndsItem.solid (.inr rfl)) rest

theorem lead_newline : Lead ['\n'] :=
  .newline (by simp)

theorem Tail.refuses (depth : Nat) {tail : List Char} (isTail : Tail rest tail) :
    Refuses (furtherItem (value (depth + 1))) tail := by
  cases isTail with
  | bracket => exact (refuses_char (by decide) rest).bind
  | line =>
      have before := gaps_bracket lead_newline rest
      exact Refuses.after (char_done ',' _)
        (Refuses.after before (refuses_value_bracket rest).bind)

theorem Tail.closes {tail : List Char} (isTail : Tail rest tail) :
    ∃ found between, optional (char ',') tail = .done found between ∧
      gaps between = .done () (']' :: rest) := by
  cases isTail with
  | bracket =>
      have noComma : Refuses (char ',') (']' :: rest) := refuses_char (by decide) rest
      exact ⟨none, _, noComma.optional, gaps_bracket .nothing rest⟩
  | line =>
      exact ⟨some ',', _, optional_done (char_done ',' _),
        gaps_bracket lead_newline rest⟩

/-- The first item, further items and what stands behind the last. -/
theorem arrayItems_done (depth : Nat) {lead tail : List Char} (leads : Lead lead) (first : String)
    (others : List String) (isTail : Tail rest tail) :
    ∃ items, List.Forall₂ ShowsText (first :: others) items ∧
      arrayItems (value (depth + 1))
        (lead ++ (Config.writeText first ++ (furtherTexts lead others ++ tail))) =
          .done items (']' :: rest) := by
  obtain ⟨c, more, rfl, ends⟩ := isTail.exists_cons
  obtain ⟨items, shows, further⟩ := furtherItems_done leads ends (isTail.refuses depth) others
  obtain ⟨found, between, comma, closing⟩ := isTail.closes
  obtain ⟨d, behind, next, endsNext⟩ := exists_cons_furtherTexts ends lead others more
  obtain ⟨item, showsText, reads⟩ := arrayItem_done depth leads first endsNext behind
  rw [← next] at reads
  have separate : someSeparated (arrayItem (value (depth + 1))) (char ',')
      (lead ++ (Config.writeText first ++ (furtherTexts lead others ++ c :: more))) =
        .done (item :: items) (c :: more) :=
    (bind_done reads).trans (bind_done further)
  have all : separated (arrayItem (value (depth + 1))) (char ',')
      (lead ++ (Config.writeText first ++ (furtherTexts lead others ++ c :: more))) =
        .done (item :: items) (c :: more) :=
    bind_done (optional_done separate)
  have notClosed : (lead ++ (Config.writeText first ++
      (furtherTexts lead others ++ c :: more))).head? ≠ some ']' := by
    obtain ⟨quote, content, whole, isQuote⟩ := writeString_quoted first.toList
    cases leads with
    | nothing =>
        rw [Config.writeText, whole]
        rcases isQuote with rfl | rfl <;> simp
    | newline _ => simp
  refine ⟨item :: items, .cons showsText shows, (if_neg notClosed).trans ?_⟩
  exact (bind_done all).trans ((bind_done comma).trans (bind_done closing))

end Arrays

theorem bareValue_array {items : List Item}
    (reads : arrayItems (value (depth + 1)) chars = .done items (']' :: rest)) :
    bareValue (depth + 1) ('[' :: chars) = .done (.array items) rest := by
  have opens : deeper (depth + 1) ('[' :: chars) = .done () ('[' :: chars) :=
    if_neg (Nat.succ_ne_zero depth)
  have closes : expecting "`]`" (labelled "array" (final do let _ ← char ']')) (']' :: rest) =
      .done () rest :=
    mapFault_done (mapFault_done (final_done (bind_done (char_done ']' rest))))
  rw [bareValue]
  exact (bind_done opens).trans ((bind_done (char_done '[' chars)).trans
    ((bind_done (final_done reads)).trans (bind_done closes)))

/-- The lines of a list are its items with the sign and the end of a line before each. -/
theorem lines_eq_furtherTexts (first : String) (others : List String) (rest : List Char) :
    '\n' :: ((first :: others).flatMap (fun text =>
        [' ', ' ', ' ', ' '] ++ Toml.writeString text.toList ++ [',', '\n']) ++ rest) =
      '\n' :: [' ', ' ', ' ', ' '] ++ (Config.writeText first ++
        (furtherTexts ('\n' :: [' ', ' ', ' ', ' ']) others ++ ',' :: '\n' :: rest)) := by
  induction others generalizing first with
  | nil => simp [furtherTexts, Config.writeText]
  | cons second others ih =>
      rw [List.flatMap_cons]
      have behind := ih second
      simp only [List.cons_append, List.nil_append, List.append_assoc, furtherTexts,
        List.flatMap_cons, List.cons.injEq, true_and, Config.writeText] at behind ⊢
      rw [behind]

/-- Lists are written with the first item behind the bracket, or with all items on lines of their
own. -/
theorem bareValue_texts (texts : List String) (rest : List Char) :
    ∃ items, List.Forall₂ ShowsText texts items ∧
      bareValue (depth + 1) (Config.writeStrings texts ++ rest) = .done (.array items) rest := by
  match texts with
  | [] => exact ⟨[], .nil, bareValue_array rfl⟩
  | [text] =>
      obtain ⟨items, shows, reads⟩ := arrayItems_done depth .nothing text []
        (.bracket : Tail rest _)
      have whole : Config.writeStrings [text] ++ rest =
          '[' :: ([] ++ (Config.writeText text ++ (furtherTexts [] [] ++ ']' :: rest))) := by
        simp [Config.writeStrings, Config.writeText, furtherTexts]
      rw [whole]
      exact ⟨items, shows, bareValue_array reads⟩
  | first :: second :: others =>
      have lead : Lead ('\n' :: [' ', ' ', ' ', ' ']) := .newline (by simp [isSpace])
      obtain ⟨items, shows, reads⟩ := arrayItems_done depth lead first (second :: others)
        (.line : Tail rest _)
      have whole : Config.writeStrings (first :: second :: others) ++ rest =
          '[' :: '\n' :: ((first :: second :: others).flatMap (fun text =>
            [' ', ' ', ' ', ' '] ++ Toml.writeString text.toList ++ [',', '\n']) ++
              ']' :: rest) := by
        simp [Config.writeStrings]
      rw [whole, lines_eq_furtherTexts]
      exact ⟨items, shows, bareValue_array reads⟩

/-- A value is read as it was written. -/
theorem value_write (depth : Nat) {plain : Plain} (writable : plain.Writable) (rest : List Char) :
    ∃ item, plain.Shows item ∧ value (depth + 2) (plain.write ++ '\n' :: rest) =
      .done item ('\n' :: rest) := by
  have unquoted : Unquoted ('\n' :: rest) := ⟨Text.stops_cons rfl rest, Text.stops_cons rfl rest⟩
  cases plain with
  | text text =>
      obtain ⟨span, reads⟩ := value_done (bareValue_text _ text unquoted)
      exact ⟨_, .text, reads⟩
  | texts texts =>
      obtain ⟨items, shows, bare⟩ := bareValue_texts texts ('\n' :: rest)
      obtain ⟨span, reads⟩ := value_done bare
      exact ⟨_, .texts shows, reads⟩
  | natural number =>
      obtain ⟨span, reads⟩ := value_done (bareValue_natural writable rest)
      exact ⟨_, .natural, reads⟩
  | boolean flag =>
      obtain ⟨span, reads⟩ := value_done (bareValue_boolean flag ('\n' :: rest))
      exact ⟨_, .boolean, reads⟩

end Reader

end Toml

end EnvAudit
