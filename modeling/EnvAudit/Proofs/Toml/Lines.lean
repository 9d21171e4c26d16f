import EnvAudit.Proofs.Toml.Values
import EnvAudit.Toml.Document

/-!
# Written lines

A line with a setting is read as its name and its value, and a line with a header as the name of
a table.
-/

namespace EnvAudit

namespace Toml

/-- A name that needs no quotes. -/
structure Bare (name : String) : Prop where
  nonempty : name.toList ≠ []
  plain : ∀ c ∈ name.toList, isBareKey c = true

theorem Bare.exists_cons {name : String} (bare : Bare name) :
    ∃ c others, name.toList = c :: others ∧ isBareKey c = true := by
  obtain ⟨c, others, whole⟩ := List.exists_cons_of_ne_nil bare.nonempty
  exact ⟨c, others, whole, bare.plain c (whole ▸ List.mem_cons_self)⟩

/-- What begins with a character of a name begins with no other character. -/
theorem cons_ne_of_isBareKey {c d : Char} (bare : isBareKey c = true)
    (special : isBareKey d = false) (text other : List Char) : c :: text ≠ d :: other := by
  rintro ⟨⟩
  rw [bare] at special
  cases special

namespace Reader

variable {chars rest gap : List Char} {c : Char} {name : String} {draft : Draft}

/-- What may stand behind the blanks behind a name. -/
structure EndsName (c : Char) : Prop where
  notBare : isBareKey c = false
  notSpace : isSpace c = false
  notDot : c ≠ '.'

theorem isSpace_of_isBareKey (bare : isBareKey c = true) : isSpace c = false := by
  by_contra space
  rw [Bool.not_eq_false, isSpace, Bool.or_eq_true, beq_iff_eq, beq_iff_eq] at space
  rcases space with rfl | rfl <;> cases bare

theorem simpleKey_done (bare : Bare name) (stops : Text.Stops isBareKey rest) :
    simpleKey (name.toList ++ rest) = .done name.toList rest := by
  obtain ⟨c, others, whole, inFront⟩ := bare.exists_cons
  have reads := someRun_done bare.nonempty bare.plain stops
  rw [whole] at reads ⊢
  rw [List.cons_append] at reads ⊢
  rw [simpleKey]
  · exact reads
  · exact fun _ => cons_ne_of_isBareKey inFront rfl _ _
  · exact fun _ => cons_ne_of_isBareKey inFront rfl _ _

/-- A name of a key with the blanks around it. -/
def keyName : Reader Key := do
  spaces
  let (name, start, stop) ← spanned simpleKey
  spaces
  return { name := .ofList name, span := ⟨start, stop⟩ }

theorem key_done (bare : Bare name) (blank : ∀ c ∈ gap, isSpace c = true) (ends : EndsName c)
    (rest : List Char) : ∃ span, key (name.toList ++ (gap ++ c :: rest)) =
      .done [⟨name, span⟩] (c :: rest) := by
  have before : spaces (name.toList ++ (gap ++ c :: rest)) =
      .done () (name.toList ++ (gap ++ c :: rest)) := by
    obtain ⟨d, others, whole, inFront⟩ := bare.exists_cons
    rw [whole]
    exact spaces_done (List.forall_mem_nil _)
      (Text.stops_cons (isSpace_of_isBareKey inFront) (others ++ (gap ++ c :: rest)))
  have stops : Text.Stops isBareKey (gap ++ c :: rest) := by
    cases gap with
    | nil => exact Text.stops_cons ends.notBare rest
    | cons d gap =>
        refine Text.stops_cons (Bool.eq_false_iff.mpr fun bare => ?_) (gap ++ c :: rest)
        have space := blank d List.mem_cons_self
        rw [isSpace_of_isBareKey bare] at space
        cases space
  obtain ⟨start, stop, named⟩ : ∃ start stop,
      spanned simpleKey (name.toList ++ (gap ++ c :: rest)) =
        .done (name.toList, start, stop) (gap ++ c :: rest) :=
    ⟨_, _, spanned_done (simpleKey_done bare stops)⟩
  have behind := spaces_done blank (Text.stops_cons ends.notSpace rest)
  have noDot : Refuses (char '.') (c :: rest) := refuses_char ends.notDot rest
  have first : keyName (name.toList ++ (gap ++ c :: rest)) =
      .done ⟨name, ⟨start, stop⟩⟩ (c :: rest) := by
    refine (bind_done before).trans ((bind_done named).trans ((bind_done behind).trans ?_))
    rw [String.ofList_toList]
    rfl
  have names : someSeparated keyName (char '.') (name.toList ++ (gap ++ c :: rest)) =
      .done [⟨name, ⟨start, stop⟩⟩] (c :: rest) :=
    (bind_done first).trans (bind_done noDot.bind.many)
  have short : 1 < depthLimit := by decide
  exact ⟨⟨start, stop⟩, check_done (mapFault_done names) (if_pos short)⟩

theorem lineEnd_done (rest : List Char) : lineEnd ('\n' :: rest) = .done () rest := by
  have inLine : Text.Stops isSpace ('\n' :: rest) := Text.stops_cons rfl rest
  have noSpaces := spaces_done (List.forall_mem_nil _) inLine
  have noComment : Refuses comment ('\n' :: rest) := (refuses_char (by decide) rest).bind
  have ends : (do let _ ← newline : Reader Unit).orElse ending ('\n' :: rest) = .done () rest :=
    orElse_done (bind_done (newline_done rest))
  have all : (do
      spaces
      let _ ← optional comment
      (do let _ ← newline).orElse ending : Reader Unit) ('\n' :: rest) = .done () rest :=
    (bind_done noSpaces).trans ((bind_done noComment.optional).trans ends)
  exact expecting_done (expecting_done all)

theorem equals_done (rest : List Char) : equals ('=' :: rest) = .done () rest := by
  have sign : (do let _ ← char '=' : Reader Unit) ('=' :: rest) = .done () rest :=
    bind_done (char_done '=' rest)
  exact expecting_done (expecting_done sign)

theorem isSpace_blank : ∀ c ∈ [' '], isSpace c = true :=
  List.forall_mem_singleton.mpr rfl

theorem stops_write (plain : Plain) (rest : List Char) :
    Text.Stops isSpace (plain.write ++ '\n' :: rest) := by
  cases plain with
  | text text =>
      obtain ⟨c, more, whole, quote⟩ := writeString_quoted text.toList
      rw [Plain.write, Config.writeText, whole]
      rcases quote with rfl | rfl <;> exact Text.stops_cons rfl _
  | texts texts =>
      rcases texts with _ | ⟨first, _ | ⟨second, others⟩⟩ <;> exact Text.stops_cons rfl _
  | natural number =>
      have digits : ∀ c ∈ Nat.toDigits 10 number, isDigit c = true :=
        fun c => isDigit_of_mem_toDigits
      refine stops_digits digits rest (fun c digit => ?_) rfl
      rw [isSpace, beq_of_isDigit digit rfl, beq_of_isDigit digit rfl]
      rfl
  | boolean flag => cases flag <;> exact Text.stops_cons rfl _

/-- A line with a setting is read as it was written. -/
theorem pairLine_done (bare : Bare name) {plain : Plain} (writable : plain.Writable)
    (rest : List Char) : ∃ span item, plain.Shows item ∧
      pairLine (Config.writeLine name plain.write ++ rest) =
        .done ⟨[], ⟨name, span⟩, item⟩ rest := by
  obtain ⟨item, shows, reads⟩ := value_write 78 writable rest
  have signEnds : EndsName '=' := ⟨rfl, rfl, by decide⟩
  obtain ⟨span, named⟩ :=
    key_done bare isSpace_blank signEnds (' ' :: (plain.write ++ '\n' :: rest))
  have whole : Config.writeLine name plain.write ++ rest =
      name.toList ++ ([' '] ++ '=' :: ' ' :: (plain.write ++ '\n' :: rest)) := by
    simp [Config.writeLine]
  have sign := equals_done (' ' :: (plain.write ++ '\n' :: rest))
  have blank := spaces_done isSpace_blank (stops_write plain rest)
  refine ⟨span, item, shows, ?_⟩
  rw [whole]
  refine (bind_done named).trans (final_done ?_)
  exact (bind_done sign).trans ((bind_done blank).trans
    ((bind_done reads).trans (bind_done (lineEnd_done rest))))

/-- The names of a header between its brackets. -/
def headerKeys (opening closing : String) : Reader (List Key) := do
  literal opening.toList
  let keys ← final key
  expecting s!"`{closing}`" <| expecting "`.`" <| final (literal closing.toList)
  return keys

theorem headerKeys_done (bare : Bare name) (rest : List Char) :
    ∃ span, headerKeys "[" "]" ('[' :: (name.toList ++ ']' :: rest)) =
      .done [⟨name, span⟩] rest := by
  have bracketEnds : EndsName ']' := ⟨rfl, rfl, by decide⟩
  obtain ⟨span, named⟩ := key_done bare (List.forall_mem_nil _) bracketEnds rest
  have opening := literal_done "[".toList (name.toList ++ ']' :: rest)
  have closing (hope : String) : expecting hope (expecting "`.`" (final (literal "]".toList)))
      (']' :: rest) = .done () rest :=
    expecting_done (expecting_done (final_done (literal_done "]".toList rest)))
  exact ⟨span, (bind_done opening).trans
    ((bind_done (final_done named)).trans (bind_done (closing _)))⟩

/-- A header is read as it was written. -/
theorem header_done (bare : Bare name) (rest : List Char) :
    ∃ span place, header "[" "]" (Config.writeHeader name ++ rest) =
      .done ([⟨name, span⟩], place) rest := by
  obtain ⟨span, keys⟩ := headerKeys_done bare ('\n' :: rest)
  obtain ⟨start, stop, spanned⟩ : ∃ start stop,
      spanned (headerKeys "[" "]") ('[' :: (name.toList ++ ']' :: '\n' :: rest)) =
        .done ([⟨name, span⟩], start, stop) ('\n' :: rest) :=
    ⟨_, _, spanned_done keys⟩
  have whole : Config.writeHeader name ++ rest = '[' :: (name.toList ++ ']' :: '\n' :: rest) := by
    simp [Config.writeHeader]
  rw [whole]
  exact ⟨span, ⟨start, stop⟩,
    (bind_done spanned).trans (bind_done (final_done (lineEnd_done rest)))⟩

section Lines

theorem lines_done {after : Draft} (reads : line draft chars = .done after rest)
    (shorter : rest.length < chars.length) (stops : Text.Stops isSpace rest) :
    lines draft chars = lines after rest := by
  have nonempty : chars ≠ [] := by
    rintro rfl
    exact absurd shorter (Nat.not_lt_zero _)
  rw [lines, if_neg nonempty, reads]
  simp only [stops.dropWhile, if_pos shorter]

theorem line_blank (draft : Draft) (rest : List Char) :
    line draft ('\n' :: rest) = .done draft rest :=
  bind_done (newline_done rest)

/-- A bracket with a name behind it opens a table. -/
theorem line_bracket (draft : Draft) (bare : isBareKey c = true) (rest : List Char) :
    line draft ('[' :: c :: rest) = final (labelled "table header" (changing draft
      (fun opening draft => draft.openTable opening.1 opening.2) (header "[" "]")))
        ('[' :: c :: rest) := by
  unfold line
  split
  case h_4 whole =>
    cases whole
    cases bare
  case h_6 => rfl
  case h_7 noBracket => exact absurd rfl (noBracket _)
  all_goals
    rename_i whole
    cases whole

/-- A name has its value behind it. -/
theorem line_name (draft : Draft) (bare : isBareKey c = true) (rest : List Char) :
    line draft (c :: rest) =
      final (changing draft (fun pair draft => draft.add pair) pairLine) (c :: rest) := by
  unfold line
  split
  case h_7 => rfl
  all_goals
    rename_i whole
    cases whole
    cases bare

theorem changing_done {α : Type} (change : α → Draft → Except Conflict Draft)
    {reader : Reader α} {value : α} {after : Draft} (reads : reader chars = .done value rest)
    (changed : change value draft = .ok after) :
    changing draft change reader chars = .done after rest :=
  check_done reads (by simp only [changed])

/-- Wherever the header stands, the draft goes on as it says. -/
theorem line_header {Good : Draft → Prop} (bare : Bare name) (rest : List Char)
    (opens : ∀ span place, ∃ after, draft.openTable [⟨name, span⟩] place = .ok after ∧
      Good after) :
    ∃ after, Good after ∧ line draft (Config.writeHeader name ++ rest) = .done after rest := by
  obtain ⟨span, place, reads⟩ := header_done bare rest
  obtain ⟨after, opened, good⟩ := opens span place
  refine ⟨after, good, ?_⟩
  obtain ⟨c, others, whole, inFront⟩ := bare.exists_cons
  have text : Config.writeHeader name ++ rest = '[' :: c :: (others ++ ']' :: '\n' :: rest) := by
    simp [Config.writeHeader, whole]
  have changes := changing_done (fun opening draft => draft.openTable opening.1 opening.2)
    reads opened
  rw [text] at changes ⊢
  rw [line_bracket draft inFront]
  exact final_done (mapFault_done changes)

/-- Wherever the setting stands, the draft goes on with it. -/
theorem line_pair {Good : Draft → Prop} (bare : Bare name) {plain : Plain}
    (writable : plain.Writable) (rest : List Char)
    (adds : ∀ span item, plain.Shows item →
      ∃ after, draft.add ⟨[], ⟨name, span⟩, item⟩ = .ok after ∧ Good after) :
    ∃ after, Good after ∧
      line draft (Config.writeLine name plain.write ++ rest) = .done after rest := by
  obtain ⟨span, item, shows, reads⟩ := pairLine_done bare writable rest
  obtain ⟨after, added, good⟩ := adds span item shows
  refine ⟨after, good, ?_⟩
  obtain ⟨c, others, whole, inFront⟩ := bare.exists_cons
  have text : Config.writeLine name plain.write ++ rest =
      c :: (others ++ ([' ', '=', ' '] ++ (plain.write ++ '\n' :: rest))) := by
    simp [Config.writeLine, whole]
  have changes := changing_done (fun pair draft => draft.add pair) reads added
  rw [text] at changes ⊢
  rw [line_name draft inFront]
  exact final_done changes

end Lines

end Reader

end Toml

end EnvAudit
