import EnvAudit.Proofs.Dialect

/-!
# Extensions in the settings

The extensions that settings may name are those of the dialects, so whatever passes the check of
the settings can be parsed.  A collector by such settings wants a file just if its extension is
among theirs, in letters of either case.
-/

namespace EnvAudit

namespace Dialect

theorem mem_supportedExtensions_iff {extension : String} :
    extension ∈ ScanConfig.supportedExtensions ↔
      ∃ dialect : Dialect, extension ∈ dialect.extensions := by
  constructor
  · intro supported
    simp only [ScanConfig.supportedExtensions, List.mem_cons, List.not_mem_nil,
      or_false] at supported
    rcases supported with rfl | rfl | rfl | rfl | rfl | rfl | rfl | rfl
    · exact ⟨plainScript, by decide⟩
    · exact ⟨scriptWithMarkup, by decide⟩
    · exact ⟨plainScript, by decide⟩
    · exact ⟨plainScript, by decide⟩
    · exact ⟨typedScript, by decide⟩
    · exact ⟨typedScriptWithMarkup, by decide⟩
    · exact ⟨typedScript, by decide⟩
    · exact ⟨typedScript, by decide⟩
  · rintro ⟨dialect, member⟩
    revert extension
    cases dialect <;> decide

theorem mem_all (dialect : Dialect) : dialect ∈ all := by
  cases dialect <;> simp [all]

/-- An extension has a dialect if it is supported, in letters of either case. -/
theorem isSome_ofExtension?_iff {extension : String} :
    (ofExtension? extension).isSome ↔ extension.toLower ∈ ScanConfig.supportedExtensions := by
  rw [ofExtension?, List.find?_isSome, mem_supportedExtensions_iff]
  simp [mem_all]

end Dialect

namespace ScanConfig

/-- The path is that of a file whose extension is among those of the settings. -/
def Wants (config : ScanConfig) (path : String) : Prop :=
  ∃ extension, Path.extension? path = some extension ∧
    extension.toLower ∈ config.effectiveExtensions

variable {config : ScanConfig} {extension : String}

/-- Effective extensions are in lowercase. -/
theorem lower_of_effective (effective : extension ∈ config.effectiveExtensions) :
    extension.toLower = extension := by
  rw [effectiveExtensions] at effective
  split at effective
  · have letters : ∀ extension ∈ supportedExtensions,
        extension.toList.map Char.toLower = extension.toList := by decide
    apply String.ext
    rw [String.toLower, String.toList_map, letters extension effective]
  · obtain ⟨given, _, rfl⟩ := List.mem_map.mp effective
    rw [normalExtension, Text.lower_lower]

theorem isSome_ofExtension?_iff_supported (effective : extension ∈ config.effectiveExtensions) :
    (Dialect.ofExtension? extension).isSome ↔ extension ∈ supportedExtensions := by
  rw [Dialect.isSome_ofExtension?_iff, lower_of_effective effective]

end ScanConfig

namespace Config

variable {config : Config}

/-- The settings name no extension that is not supported, just if the check does not complain
about one. -/
theorem validate_ne_unsupported_iff (sized : config.scan.maxFileSize ≠ some 0) :
    (∀ extension, config.validate ≠ .error (unsupportedExtension extension)) ↔
      ∀ extension ∈ config.scan.effectiveExtensions,
        extension ∈ ScanConfig.supportedExtensions := by
  rw [validate, if_neg sized]
  split
  · rename_i extension first
    constructor
    · intro silent
      exact absurd rfl (silent extension)
    · intro supported
      have unsupported := List.find?_some first
      simp [supported extension (List.mem_of_find?_eq_some first)] at unsupported
  · rename_i none
    constructor
    · intro _ extension effective
      simpa using List.find?_eq_none.mp none extension effective
    · intro _ extension complains
      split at complains <;> simp [unsupportedExtension] at complains

theorem sized_of_valid (valid : config.validate = .ok ()) : config.scan.maxFileSize ≠ some 0 := by
  intro zero
  rw [validate, if_pos zero] at valid
  cases valid

theorem supported_of_valid (valid : config.validate = .ok ()) :
    ∀ extension ∈ config.scan.effectiveExtensions, extension ∈ ScanConfig.supportedExtensions := by
  refine (validate_ne_unsupported_iff (sized_of_valid valid)).mp fun extension complains => ?_
  cases valid.symm.trans complains

end Config

namespace Collector

variable {config : ScanConfig} {path : String}

/-- Where all effective extensions are supported, wanted files have a dialect. -/
theorem isSome_dialectFor?_iff
    (supported : ∀ extension ∈ config.effectiveExtensions,
      extension ∈ ScanConfig.supportedExtensions) :
    ((ofConfig config).dialectFor? path).isSome ↔ config.Wants path := by
  rw [Option.isSome_iff_exists]
  constructor
  · rintro ⟨dialect, found⟩
    obtain ⟨extension, known, effective, _⟩ := dialectFor?_eq_some_iff.mp found
    exact ⟨extension, known, effective⟩
  · rintro ⟨extension, known, effective⟩
    obtain ⟨dialect, found⟩ := Option.isSome_iff_exists.mp
      ((ScanConfig.isSome_ofExtension?_iff_supported effective).mpr
        (supported _ effective))
    exact ⟨dialect, dialectFor?_eq_some_iff.mpr ⟨extension, known, effective, found⟩⟩

/-- By the default settings every file has the dialect of its path. -/
theorem dialectFor?_default : (ofConfig {}).dialectFor? path = Dialect.ofPath? path := by
  refine Option.ext fun dialect => ⟨ofPath?_of_dialectFor?, fun found => ?_⟩
  obtain ⟨extension, known, found⟩ := Option.bind_eq_some_iff.mp found
  have supported : extension.toLower ∈ ScanConfig.supportedExtensions :=
    Dialect.isSome_ofExtension?_iff.mp (by rw [found]; rfl)
  exact dialectFor?_eq_some_iff.mpr ⟨extension, known, supported, by simpa using found⟩

end Collector

/-- The check of the settings complains about extensions just if one of the effective extensions
has no dialect.  By settings that pass the whole check, a file has a dialect just if its extension
is an effective one, and then it is the dialect of its path; every effective extension is that of
some file.  By the default settings every file has the dialect of its path. -/
theorem accepted_extensions_have_dialects (config : Config) :
    (config.scan.maxFileSize ≠ some 0 →
      ((∀ extension, config.validate ≠ .error (Config.unsupportedExtension extension)) ↔
        ∀ extension ∈ config.scan.effectiveExtensions,
          (Dialect.ofExtension? extension).isSome)) ∧
      (config.validate = .ok () →
        (∀ path, ((Collector.ofConfig config.scan).dialectFor? path).isSome ↔
          config.scan.Wants path) ∧
        (∀ path dialect, (Collector.ofConfig config.scan).dialectFor? path = some dialect →
          Dialect.ofPath? path = some dialect) ∧
        ∀ extension ∈ config.scan.effectiveExtensions, ∃ path,
          Path.extension? path = some extension ∧
            ((Collector.ofConfig config.scan).dialectFor? path).isSome) ∧
      ∀ path, (Collector.ofConfig {}).dialectFor? path = Dialect.ofPath? path := by
  refine ⟨fun sized => ?_, fun valid => ?_, fun path => Collector.dialectFor?_default⟩
  · rw [Config.validate_ne_unsupported_iff sized]
    exact forall₂_congr fun extension effective =>
      (ScanConfig.isSome_ofExtension?_iff_supported effective).symm
  · have supported := Config.supported_of_valid valid
    refine ⟨fun path => Collector.isSome_dialectFor?_iff supported,
      fun path dialect => Collector.ofPath?_of_dialectFor?, fun extension effective => ?_⟩
    have named : ∀ extension ∈ ScanConfig.supportedExtensions,
        Path.extension? ("main." ++ extension) = some extension := by decide
    have known := named extension (supported extension effective)
    refine ⟨"main." ++ extension, known, (Collector.isSome_dialectFor?_iff supported).mpr ?_⟩
    exact ⟨extension, known, (ScanConfig.lower_of_effective effective).symm ▸ effective⟩

end EnvAudit
