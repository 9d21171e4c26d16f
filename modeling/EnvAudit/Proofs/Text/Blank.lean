import EnvAudit.Text.Blank
import Mathlib.Data.List.TakeWhile

/-!
# Texts among blanks

Without the blanks at both ends of a text there remains the one part of it that has only
blanks around it and none at its own ends.
-/

namespace EnvAudit

namespace Text

/-- A part of a text with only blanks around it and none at its own ends. -/
structure Core (text core : String) : Prop where
  among : ∃ before behind : List Char, text.toList = before ++ core.toList ++ behind ∧
    (∀ c ∈ before, isBlank c = true) ∧ ∀ c ∈ behind, isBlank c = true
  begins : ∀ c ∈ core.toList.head?, isBlank c = false
  ends : ∀ c ∈ core.toList.getLast?, isBlank c = false

variable {chars before behind : List Char}

theorem trimStartChars_append (blank : ∀ c ∈ before, isBlank c = true)
    (begins : ∀ c ∈ chars.head?, isBlank c = false) :
    trimStartChars (before ++ chars) = chars := by
  rw [trimStartChars, List.dropWhile_append_of_pos blank]
  cases chars with
  | nil => rfl
  | cons c rest =>
      have visible : isBlank c = false := begins c rfl
      exact List.dropWhile_cons_of_neg (by simp [visible])

theorem trimEndChars_append (blank : ∀ c ∈ behind, isBlank c = true)
    (ends : ∀ c ∈ chars.getLast?, isBlank c = false) :
    trimEndChars (chars ++ behind) = chars := by
  have turned : trimStartChars (behind.reverse ++ chars.reverse) = chars.reverse :=
    trimStartChars_append (by simpa using blank) (by simpa using ends)
  rw [trimStartChars] at turned
  rw [trimEndChars, List.reverse_append, turned, List.reverse_reverse]

theorem exists_trimStartChars (chars : List Char) :
    ∃ before, chars = before ++ trimStartChars chars ∧ (∀ c ∈ before, isBlank c = true) ∧
      ∀ c ∈ (trimStartChars chars).head?, isBlank c = false := by
  refine ⟨chars.takeWhile isBlank, List.takeWhile_append_dropWhile.symm,
    fun c member => List.mem_takeWhile_imp member, fun c first => ?_⟩
  have visible := List.head?_dropWhile_not isBlank chars
  rw [trimStartChars] at first
  rw [first] at visible
  exact visible

theorem exists_trimEndChars (chars : List Char) :
    ∃ behind, chars = trimEndChars chars ++ behind ∧ (∀ c ∈ behind, isBlank c = true) ∧
      ∀ c ∈ (trimEndChars chars).getLast?, isBlank c = false := by
  obtain ⟨before, whole, blank, begins⟩ := exists_trimStartChars chars.reverse
  refine ⟨before.reverse, ?_, by simpa using blank, ?_⟩
  · rw [trimEndChars, ← List.reverse_append, ← List.reverse_eq_iff]
    exact whole
  · rw [trimEndChars, List.getLast?_reverse]
    exact begins

theorem core_trim (text : String) : Core text (trim text) := by
  obtain ⟨before, whole, blankBefore, begins⟩ := exists_trimStartChars text.toList
  obtain ⟨behind, rest, blankBehind, ends⟩ := exists_trimEndChars (trimStartChars text.toList)
  have letters : (trim text).toList = trimEndChars (trimStartChars text.toList) := by
    simp [trim, trimChars]
  refine ⟨⟨before, behind, ?_, blankBefore, blankBehind⟩, fun c first => ?_, ?_⟩
  · rw [letters, List.append_assoc, ← rest]
    exact whole
  · -- What is left begins as it did before its end was taken off.
    rw [letters] at first
    refine begins c ?_
    rw [rest, List.head?_append, first]
    rfl
  · rw [letters]
    exact ends

theorem trim_of_core {text core : String} (isCore : Core text core) : trim text = core := by
  obtain ⟨before, behind, whole, blankBefore, blankBehind⟩ := isCore.among
  have trimmed : trimChars text.toList = core.toList := by
    rw [whole, trimChars, List.append_assoc]
    by_cases empty : core.toList = []
    · have nothing : trimStartChars (before ++ ([] ++ behind)) = [] := by
        rw [trimStartChars, List.dropWhile_eq_nil_iff]
        intro c member
        rcases List.mem_append.mp member with inBefore | inBehind
        · exact blankBefore c inBefore
        · exact blankBehind c inBehind
      rw [empty, nothing]
      rfl
    · have begins : ∀ c ∈ (core.toList ++ behind).head?, isBlank c = false := by
        obtain ⟨first, rest, letters⟩ := List.exists_cons_of_ne_nil empty
        simpa [letters] using isCore.begins
      rw [trimStartChars_append blankBefore begins, trimEndChars_append blankBehind isCore.ends]
  rw [trim, trimmed, String.ofList_toList]

theorem core_iff {text core : String} : Core text core ↔ trim text = core := by
  constructor
  · exact trim_of_core
  · rintro rfl
    exact core_trim text

/-- A text that leaves no mark. -/
def Blank (text : String) : Prop :=
  ∀ c ∈ text.toList, isBlank c = true

instance (text : String) : Decidable (Blank text) :=
  decidable_of_iff (text.toList.all isBlank = true) List.all_eq_true

section Blank

variable {text front back : String}

theorem trim_of_blank (blank : Blank text) : trim text = "" :=
  trim_of_core ⟨⟨text.toList, [], by simp, blank, by simp⟩, by simp, by simp⟩

theorem trim_ne_empty (visible : ¬ Blank text) : trim text ≠ "" := by
  intro empty
  obtain ⟨start, stop, whole, blankStart, blankStop⟩ := (core_trim text).among
  rw [empty] at whole
  refine visible fun c member => ?_
  rw [whole] at member
  rcases List.mem_append.mp member with inStart | inStop
  · exact blankStart c (by simpa using inStart)
  · exact blankStop c inStop

/-- Blanks around a text are trimmed away. -/
theorem trim_among (blankFront : Blank front) (blankBack : Blank back) (text : String) :
    trim (front ++ text ++ back) = trim text := by
  obtain ⟨⟨start, stop, whole, blankStart, blankStop⟩, begins, ends⟩ := core_trim text
  refine trim_of_core ⟨⟨front.toList ++ start, stop ++ back.toList, ?_, ?_, ?_⟩, begins, ends⟩
  · simp [String.toList_append, whole]
  · exact List.forall_mem_append.mpr ⟨blankFront, blankStart⟩
  · exact List.forall_mem_append.mpr ⟨blankStop, blankBack⟩

theorem trim_trim (text : String) : trim (trim text) = trim text := by
  obtain ⟨_, begins, ends⟩ := core_trim text
  exact trim_of_core ⟨⟨[], [], by simp, by simp, by simp⟩, begins, ends⟩

/-- Blanks separate nothing. -/
theorem free_of_blank (blank : Blank text) : ',' ∉ text.toList := by
  intro member
  have isBlank := blank ',' member
  revert isBlank
  decide

end Blank

end Text

end EnvAudit
