import EnvAudit.Proofs.Toml.Readers
import EnvAudit.Toml.Text

/-!
# Stretches of strings

The content of a string is read in pieces.  How the pieces are cut does not matter for what
they say together.  In a string on several lines, quotes may stand between the pieces.
-/

namespace EnvAudit

namespace Toml

namespace Reader

variable {α : Type} {chars others text rest : List Char} {c : Char}

/-- Whatever a reader finds further on, it finds these values before that. -/
def Prepends (reader : Reader (List α)) (text : List Char) (values : List α) : Prop :=
  ∀ others further rest, reader others = .done further rest →
    reader (text ++ others) = .done (values ++ further) rest

theorem Prepends.nil (reader : Reader (List α)) : Prepends reader [] [] :=
  fun _ _ _ reads => reads

theorem Prepends.append {reader : Reader (List α)} {behind : List Char} {values more : List α}
    (first : Prepends reader text values) (second : Prepends reader behind more) :
    Prepends reader (text ++ behind) (values ++ more) := by
  intro others further rest reads
  rw [List.append_assoc, List.append_assoc]
  exact first _ _ _ (second _ _ _ reads)

theorem prepends_many {reader : Reader α} {value : α} (nonempty : text ≠ [])
    (reads : ∀ others, reader (text ++ others) = .done value others) :
    Prepends (many reader) text [value] := by
  intro others further rest more
  refine many_done (reads others) ?_ more
  have := List.length_pos_iff.mpr nonempty
  rw [List.length_append]
  omega

/-- All parts together. -/
def stretch (reader : Reader (List Char)) : Reader (List Char) := do
  return (← many reader).flatten

theorem stretch_done_iff {reader : Reader (List Char)} : stretch reader chars = .done text rest ↔
    ∃ parts, many reader chars = .done parts rest ∧ parts.flatten = text := by
  have applied := bind_apply (many reader) (fun parts => pure parts.flatten) chars
  rw [show stretch reader chars = _ from applied]
  cases many reader chars with
  | done parts after =>
      constructor
      · rintro ⟨⟩
        exact ⟨parts, rfl, rfl⟩
      · rintro ⟨_, ⟨⟩, rfl⟩
        rfl
  | retry fault => simp
  | stop fault => simp

theorem bind_stretch {β : Type} (reader : Reader (List Char)) (next : List Char → Reader β) :
    (do let parts ← many reader; next parts.flatten) = stretch reader >>= next := by
  funext chars
  have parted := bind_apply (many reader) (fun parts => next parts.flatten) chars
  have whole := bind_apply (many reader) (fun parts => pure parts.flatten) chars
  rw [bind_apply (stretch reader), show stretch reader chars = _ from whole]
  refine parted.trans ?_
  cases many reader chars <;> rfl

theorem prepends_stretch {reader : Reader (List Char)} {part : List Char} (nonempty : text ≠ [])
    (reads : ∀ others, reader (text ++ others) = .done part others) :
    Prepends (stretch reader) text part := by
  intro others further rest reading
  obtain ⟨parts, more, rfl⟩ := stretch_done_iff.mp reading
  exact stretch_done_iff.mpr ⟨_, prepends_many nonempty reads _ _ _ more, rfl⟩

theorem many_of_done {reader : Reader α} {value : α} {between : List Char} {values : List α}
    (reads : reader chars = .done value between) (shorter : between.length < chars.length)
    (all : many reader chars = .done values rest) :
    ∃ others, values = value :: others ∧ many reader between = .done others rest := by
  rw [many, reads] at all
  simp only [if_pos shorter] at all
  cases known : many reader between with
  | done others after =>
      rw [known] at all
      cases all
      exact ⟨others, rfl, rfl⟩
  | retry fault =>
      rw [known] at all
      cases all
  | stop fault =>
      rw [known] at all
      cases all

/-- A character before a run becomes part of the run. -/
theorem prepends_run {test : Char → Bool} {other : Reader (List Char)} (passes : test c = true) :
    Prepends (stretch ((someRun test).orElse other)) [c] [c] := by
  intro others further rest reading
  obtain ⟨parts, more, rfl⟩ := stretch_done_iff.mp reading
  have takes {run behind : List Char} (nonempty : run ≠ []) (inside : ∀ c ∈ run, test c = true)
      (stops : Text.Stops test behind) :
      (someRun test).orElse other (run ++ behind) = .done run behind :=
    orElse_done (someRun_done nonempty inside stops)
  have stops : Text.Stops test (others.dropWhile test) := Text.stops_dropWhile others
  have inside : ∀ c ∈ others.takeWhile test, test c = true := fun c => List.mem_takeWhile_imp
  have divided : others.takeWhile test ++ others.dropWhile test = others :=
    List.takeWhile_append_dropWhile
  have first := takes (List.cons_ne_nil c (others.takeWhile test))
    (List.forall_mem_cons.mpr ⟨passes, inside⟩) stops
  rw [List.cons_append, divided] at first
  have whole : (others.takeWhile test).length + (others.dropWhile test).length = others.length := by
    rw [← List.length_append, divided]
  by_cases run : others.takeWhile test = []
  · rw [run, List.nil_append] at divided
    rw [run, divided] at first
    exact stretch_done_iff.mpr ⟨_, many_done first (by simp) more, rfl⟩
  · have second := takes run inside stops
    rw [divided] at second
    have nonempty := List.length_pos_iff.mpr run
    obtain ⟨later, rfl, after⟩ := many_of_done second (by omega) more
    refine stretch_done_iff.mpr ⟨_, many_done first ?_ after, rfl⟩
    rw [List.singleton_append, List.length_cons]
    omega

end Reader

end Toml

end EnvAudit
