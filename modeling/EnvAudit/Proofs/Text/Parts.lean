import EnvAudit.Text.Parts
import Mathlib.Data.List.Basic

/-!
# Parts between separators

The parts of a text are the only texts without the separator that it joins to the text.
-/

namespace EnvAudit

namespace Text

theorem splitChars_of_free {separator : Char} {chars : List Char} (free : separator ∉ chars) :
    splitChars separator chars = [chars] := by
  induction chars with
  | nil => rfl
  | cons c rest ih =>
      have different : c ≠ separator := fun same => free (by simp [same])
      have restFree : separator ∉ rest := fun inRest => free (by simp [inRest])
      rw [splitChars, if_neg different, ih restFree]

theorem splitChars_append_separator (separator : Char) (before behind : List Char) :
    splitChars separator (before ++ separator :: behind) =
      splitChars separator before ++ splitChars separator behind := by
  induction before with
  | nil => simp [splitChars]
  | cons c before ih =>
      rw [List.cons_append, splitChars, splitChars, ih]
      split
      · rfl
      · cases known : splitChars separator before with
        | nil => exact absurd known (splitChars_ne_nil separator before)
        | cons part parts => rfl

/-- Runs of characters without the separator are recovered from their joint text. -/
theorem splitChars_intercalate {separator : Char} {parts : List (List Char)}
    (nonempty : parts ≠ []) (free : ∀ part ∈ parts, separator ∉ part) :
    splitChars separator ([separator].intercalate parts) = parts := by
  induction parts with
  | nil => exact absurd rfl nonempty
  | cons part others ih =>
      have partFree : separator ∉ part := free part (by simp)
      cases others with
      | nil => simpa [List.intercalate] using splitChars_of_free partFree
      | cons next others =>
          have rest := ih (by simp) (fun part member => free part (by simp [member]))
          have joined : [separator].intercalate (part :: next :: others) =
              part ++ separator :: [separator].intercalate (next :: others) := by
            simp [List.intercalate]
          rw [joined, splitChars_append_separator, splitChars_of_free partFree, rest]
          rfl

theorem free_of_mem_splitChars {separator : Char} {chars part : List Char}
    (member : part ∈ splitChars separator chars) : separator ∉ part := by
  induction chars generalizing part with
  | nil => simp_all [splitChars]
  | cons c rest ih =>
      rw [splitChars] at member
      split at member
      · rcases List.mem_cons.mp member with rfl | inRest
        · simp
        · exact ih inRest
      · rename_i different
        cases known : splitChars separator rest with
        | nil => exact absurd known (splitChars_ne_nil separator rest)
        | cons first parts =>
            rw [known] at member ih
            rcases List.mem_cons.mp member with rfl | inRest
            · have restFree : separator ∉ first := ih List.mem_cons_self
              simp [restFree, Ne.symm different]
            · exact ih (List.mem_cons_of_mem _ inRest)

/-- A text has no other parts than those without the separator that it joins. -/
theorem split_eq_iff {separator : Char} {text : String} {parts : List String} :
    split separator text = parts ↔ parts ≠ [] ∧ (∀ part ∈ parts, separator ∉ part.toList) ∧
      text = (String.singleton separator).intercalate parts := by
  have joint (parts : List String) : ((String.singleton separator).intercalate parts).toList =
      [separator].intercalate (parts.map String.toList) := by
    rw [String.toList_intercalate, String.toList_singleton]
  constructor
  · rintro rfl
    refine ⟨?_, ?_, ?_⟩
    · simpa [split] using splitChars_ne_nil separator text.toList
    · intro part member
      obtain ⟨letters, inSplit, rfl⟩ := List.mem_map.mp member
      rw [String.toList_ofList]
      exact free_of_mem_splitChars inSplit
    · rw [← String.toList_inj, joint, split, List.map_map]
      simp only [Function.comp_def, String.toList_ofList, List.map_id']
      exact (intercalate_splitChars separator text.toList).symm
  · rintro ⟨nonempty, free, rfl⟩
    have recovered : splitChars separator ([separator].intercalate (parts.map String.toList)) =
        parts.map String.toList := by
      refine splitChars_intercalate (by simpa using nonempty) fun part member => ?_
      obtain ⟨text, inParts, rfl⟩ := List.mem_map.mp member
      exact free text inParts
    rw [split, joint, recovered, List.map_map]
    simp [Function.comp_def]

end Text

end EnvAudit
