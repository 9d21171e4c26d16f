import EnvAudit.CommandLine.Parse
import EnvAudit.Proofs.Except

/-!
# What reading a command line keeps

However its parameters are spelled, a command line is read by taking in flags and slots one
after the other, where a slot may wait for its value.  So what taking in a parameter keeps
still holds of the whole line.  One thing it keeps is that the line says nothing about the
environment file that was not given, and so an accepted line does not both name a file and
ask for none.
-/

namespace EnvAudit

namespace CommandLine

deriving instance ReflBEq, LawfulBEq for Flag, Slot, Parameter

namespace Progress

variable {progress after : Progress} {flag : Flag} {slot : Slot} {value : String}
variable {line : CommandLine}

theorem mem_addTo {used : List Parameter} {parameter other : Parameter} :
    parameter ∈ addTo used other ↔ parameter ∈ used ∨ parameter = other := by
  rw [addTo]
  split
  · rename_i contained
    have member : other ∈ used := by simpa using contained
    constructor
    · exact .inl
    · rintro (given | rfl)
      · exact given
      · exact member
  · simp

theorem addFlag_eq_ok (added : progress.addFlag flag = .ok after) :
    ∃ line, progress.line.setFlag flag = .ok line ∧
      after = { progress with line, used := addTo progress.used (.flag flag) } := by
  rw [addFlag] at added
  split at added
  · cases added
  · obtain ⟨line, set, ⟨⟩⟩ := bind_eq_ok_iff.mp added
    exact ⟨line, set, rfl⟩

theorem addSlot_eq_ok (added : progress.addSlot slot value = .ok after) :
    ∃ line, progress.line.setSlot value slot = .ok line ∧
      after = { progress with line, used := addTo progress.used (.slot slot) } := by
  rw [addSlot] at added
  split at added
  · cases added
  · obtain ⟨line, set, ⟨⟩⟩ := bind_eq_ok_iff.mp added
    exact ⟨line, set, rfl⟩

/-- What taking in a parameter keeps, whatever parameter waits for its value. -/
structure Invariant (property : Progress → Prop) : Prop where
  await : ∀ {progress pending}, property progress → property { progress with pending }
  addFlag : ∀ {progress flag after}, property progress → progress.addFlag flag = .ok after →
    property after
  addSlot : ∀ {progress slot value after}, property progress →
    progress.addSlot slot value = .ok after → property after

namespace Invariant

variable {property : Progress → Prop} (invariant : Invariant property)

include invariant

theorem settle (holds : property progress) (settled : progress.settle = .ok after) :
    property after := by
  rw [Progress.settle] at settled
  split at settled
  · cases settled
    exact holds
  · cases settled
  · exact invariant.addSlot (invariant.await holds) settled

theorem readFlag (holds : property progress) (read : progress.readFlag flag = .ok after) :
    property after := by
  obtain ⟨middle, settled, added⟩ := bind_eq_ok_iff.mp read
  exact invariant.addFlag (invariant.settle holds settled) added

theorem readSlot {given : Option String} (holds : property progress)
    (read : progress.readSlot slot given = .ok after) : property after := by
  obtain ⟨middle, settled, read⟩ := bind_eq_ok_iff.mp read
  have holdsThen := invariant.settle holds settled
  cases given with
  | none =>
      cases read
      exact invariant.await holdsThen
  | some value => exact invariant.addSlot holdsThen read

theorem readLong {name : String} {given : Option String} (holds : property progress)
    (read : progress.readLong name given = .ok after) : property after := by
  rw [Progress.readLong] at read
  split at read
  · exact invariant.readSlot holds read
  · cases given with
    | none => exact invariant.readFlag holds read
    | some value => cases read
  · cases read

theorem readShort {letters : List Char} (holds : property progress)
    (read : progress.readShort letters = .ok after) : property after := by
  induction letters generalizing progress with
  | nil =>
      cases read
      exact holds
  | cons letter letters ih =>
      rw [Progress.readShort] at read
      split at read
      · exact invariant.readSlot holds read
      · obtain ⟨middle, flagRead, read⟩ := bind_eq_ok_iff.mp read
        exact ih (invariant.readFlag holds flagRead) read
      · cases read

theorem readPath (holds : property progress) (read : progress.readPath value = .ok after) :
    property after := by
  rw [Progress.readPath] at read
  split at read
  · cases read
  · obtain ⟨middle, settled, ⟨⟩⟩ := bind_eq_ok_iff.mp read
    exact invariant.await (invariant.settle holds settled)

theorem readPaths {values : List String} (holds : property progress)
    (read : values.foldlM Progress.readPath progress = .ok after) : property after := by
  induction values generalizing progress with
  | nil =>
      cases read
      exact holds
  | cons value values ih =>
      obtain ⟨middle, pathRead, read⟩ := bind_eq_ok_iff.mp read
      exact ih (invariant.readPath holds pathRead) read

theorem readArgument {argument : String} (holds : property progress)
    (read : progress.readArgument argument = .ok after) : property after := by
  rw [Progress.readArgument] at read
  split at read
  · exact invariant.readLong holds read
  · exact invariant.readShort holds read
  · rw [Progress.readValue] at read
    split at read
    · cases read
      exact invariant.await holds
    · exact invariant.readPath holds read

theorem readArguments {arguments : List String} (holds : property progress)
    (read : progress.readArguments arguments = .ok after) : property after := by
  induction arguments generalizing progress with
  | nil =>
      cases read
      exact holds
  | cons argument arguments ih =>
      rw [Progress.readArguments] at read
      split at read
      · exact invariant.readPaths holds read
      · obtain ⟨middle, argumentRead, read⟩ := bind_eq_ok_iff.mp read
        exact ih (invariant.readArgument holds argumentRead) read

/-- An accepted line is that of a progress which the invariant holds of, and none of the
parameters given with it exclude each other. -/
theorem parse {arguments : List String} (holds : property {})
    (accepted : CommandLine.parse arguments = .ok line) :
    ∃ progress : Progress, property progress ∧ conflict? progress.used = none ∧
      progress.line = line := by
  obtain ⟨progress, read, finished⟩ := bind_eq_ok_iff.mp accepted
  obtain ⟨last, settled, finished⟩ := bind_eq_ok_iff.mp finished
  have holdsLast := invariant.settle (invariant.readArguments holds read) settled
  split at finished
  · cases finished
  · rename_i free
    cases finished
    exact ⟨last, holdsLast, free, rfl⟩

end Invariant

theorem excluded_of_conflict? {used : List Parameter} {former latter : Parameter}
    (free : conflict? used = none) (excludes : (former, latter) ∈ exclusions)
    (given : former ∈ used) : latter ∉ used := by
  intro alsoGiven
  have none := List.find?_eq_none.mp (List.findSome?_eq_none_iff.mp free former given)
  have bothGiven : ((former == former) && used.contains latter) = true := by simp [alsoGiven]
  exact none _ excludes bothGiven

/-- What the line says about the environment file was given. -/
structure Accounted (progress : Progress) : Prop where
  named : ∀ {name}, progress.line.envFile = some name → .slot .envFile ∈ progress.used
  refused : progress.line.noEnvFile = true → .flag .noEnvFile ∈ progress.used

/-- Only one flag refuses the environment file, and none names it. -/
theorem setFlag_envFile {before : CommandLine} (set : before.setFlag flag = .ok line) :
    line.envFile = before.envFile ∧
      (line.noEnvFile = true → before.noEnvFile = true ∨ flag = .noEnvFile) := by
  cases flag <;> cases set <;> simp

theorem setSlot_envFile {before : CommandLine} (set : before.setSlot value slot = .ok line) :
    line.noEnvFile = before.noEnvFile ∧
      (line.envFile = before.envFile ∨ slot = .envFile) := by
  cases slot with
  | envFile =>
      cases set
      exact ⟨rfl, .inr rfl⟩
  | ignore | ext =>
      cases set
      exact ⟨rfl, .inl rfl⟩
  | path | config =>
      simp only [setSlot] at set
      split at set
      · cases set
      · cases set
        exact ⟨rfl, .inl rfl⟩
  | format =>
      simp only [setSlot] at set
      cases known : formatOfName value with
      | error refusal =>
          rw [known] at set
          cases set
      | ok format =>
          rw [known] at set
          cases set
          exact ⟨rfl, .inl rfl⟩

theorem invariant_accounted : Invariant Accounted where
  await accounted := ⟨accounted.named, accounted.refused⟩
  addFlag accounted added := by
    obtain ⟨line, set, rfl⟩ := addFlag_eq_ok added
    obtain ⟨sameFile, refused⟩ := setFlag_envFile set
    refine ⟨fun named => ?_, fun refuses => ?_⟩
    · exact mem_addTo.mpr (.inl (accounted.named (sameFile.symm.trans named)))
    · rcases refused refuses with before | rfl
      · exact mem_addTo.mpr (.inl (accounted.refused before))
      · exact mem_addTo.mpr (.inr rfl)
  addSlot accounted added := by
    obtain ⟨line, set, rfl⟩ := addSlot_eq_ok added
    obtain ⟨sameRefusal, named⟩ := setSlot_envFile set
    refine ⟨fun names => ?_, fun refuses => ?_⟩
    · rcases named with same | rfl
      · exact mem_addTo.mpr (.inl (accounted.named (same.symm.trans names)))
      · exact mem_addTo.mpr (.inr rfl)
    · exact mem_addTo.mpr (.inl (accounted.refused (sameRefusal.symm.trans refuses)))

end Progress

/-- A line that names an environment file does not ask for none. -/
theorem noEnvFile_of_envFile {arguments : List String} {line : CommandLine} {name : String}
    (accepted : parse arguments = .ok line) (named : line.envFile = some name) :
    line.noEnvFile = false := by
  have nothing : Progress.Accounted {} := by
    constructor
    · intro name names
      cases names
    · intro refuses
      cases refuses
  obtain ⟨progress, accounted, free, rfl⟩ := Progress.invariant_accounted.parse nothing accepted
  have excluded : .flag .noEnvFile ∉ progress.used :=
    Progress.excluded_of_conflict? free (by decide) (accounted.named named)
  exact Bool.eq_false_iff.mpr fun refuses => excluded (accounted.refused refuses)

end CommandLine

end EnvAudit
