import EnvAudit.Walk
import Mathlib

/-!
# Dialects of wanted files

A collector gives a file a dialect if the extension of its path is wanted and
known, in letters of either case; the dialect is then that of the path.
-/

namespace EnvAudit

namespace Text

theorem lower_lower (text : String) : text.toLower.toLower = text.toLower := by
  apply String.ext
  simp only [String.toLower, String.toList_map, List.map_map, Function.comp_def,
    Char.toLower_toLower_eq_toLower]

end Text

namespace Dialect

/-- The case of letters in an extension does not matter. -/
@[simp]
theorem ofExtension?_toLower (extension : String) :
    ofExtension? extension.toLower = ofExtension? extension := by
  simp only [ofExtension?, Text.lower_lower]

end Dialect

namespace Collector

variable {collector : Collector} {path : String} {size : Nat} {dialect : Dialect}

theorem dialectFor?_eq_some_iff :
    collector.dialectFor? path = some dialect ↔
      ∃ extension, Path.extension? path = some extension ∧
        extension.toLower ∈ collector.extensions ∧
        Dialect.ofExtension? extension.toLower = some dialect := by
  cases known : Path.extension? path with
  | none => simp [dialectFor?, known]
  | some extension =>
      simp only [dialectFor?, known]
      by_cases wanted : extension.toLower ∈ collector.extensions
      · simp [wanted]
      · simp [wanted]

/-- The dialect of a wanted file is that of its path. -/
theorem ofPath?_of_dialectFor? (wanted : collector.dialectFor? path = some dialect) :
    Dialect.ofPath? path = some dialect := by
  obtain ⟨extension, known, _, ofExtension⟩ := dialectFor?_eq_some_iff.mp wanted
  rw [Dialect.ofExtension?_toLower] at ofExtension
  simp [Dialect.ofPath?, known, ofExtension]

theorem mem_files_collectFile {file : SourceFile} :
    file ∈ (collector.collectFile path size).files ↔
      collector.dialectFor? path = some file.dialect ∧ size ≤ collector.maxFileSize ∧
        file.path = path ∧ file.size = size := by
  obtain ⟨filePath, dialect, fileSize⟩ := file
  rw [collectFile]
  cases wanted : collector.dialectFor? path with
  | none => simp
  | some known =>
      by_cases large : collector.maxFileSize < size
      · simp only [large, if_true, List.not_mem_nil, false_iff]
        rintro ⟨_, small, _⟩
        omega
      · have small : size ≤ collector.maxFileSize := by omega
        simp only [large, if_false, small, List.mem_singleton, SourceFile.mk.injEq,
          Option.some.injEq]
        grind

theorem mem_oversized_collectFile {other : String} :
    other ∈ (collector.collectFile path size).oversized ↔
      (collector.dialectFor? path).isSome ∧ collector.maxFileSize < size ∧ other = path := by
  rw [collectFile]
  cases wanted : collector.dialectFor? path with
  | none => simp
  | some known =>
      by_cases large : collector.maxFileSize < size
      · simp [large]
      · simp [large]

@[simp]
theorem ignored_collectFile : (collector.collectFile path size).ignored = 0 := by
  rw [collectFile]
  split
  · rfl
  · split <;> rfl

end Collector

end EnvAudit
