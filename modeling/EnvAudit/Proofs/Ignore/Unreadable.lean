import EnvAudit.Proofs.Ignore.Layers

/-!
# Ignore files that cannot be read

The reading of an ignore file ends at the first line that is not text.  The file is refused if
that is its only fault.  Behind a line with an invalid glob it is passed over like that line, and
the lines before it stay in force while those behind it are lost.
-/

namespace EnvAudit

namespace Text

theorem toList_eq_data (bytes : ByteArray) : bytes.toList = bytes.data.toList :=
  toList_loop_of_append (List.nil_append _).symm []

theorem toUTF8_of_fromUTF8? {bytes : ByteArray} {text : String}
    (known : String.fromUTF8? bytes = some text) : text.toUTF8 = bytes := by
  rw [String.fromUTF8?] at known
  split at known
  · cases known
    rfl
  · cases known

end Text

namespace IgnoreFile

open Text (encode encode_append encode_cons)

section Decoding

variable {line : List UInt8}

theorem eq_encode_of_decodeLine {chars : List Char} (known : decodeLine line = some chars) :
    line = encode chars := by
  obtain ⟨text, decoded, rfl⟩ := Option.map_eq_some_iff.mp known
  rw [← Text.toList_toUTF8, Text.toUTF8_of_fromUTF8? decoded, Text.toList_eq_data]

theorem exists_encode_of_withoutLast {chars : List Char}
    (known : withoutLast 0x0D line = encode chars) : ∃ whole, line = encode whole := by
  rw [withoutLast] at known
  split at known
  · rename_i returns
    obtain ⟨before, rfl⟩ := List.getLast?_eq_some_iff.mp returns
    rw [List.dropLast_concat] at known
    exact ⟨chars ++ ['\r'], by rw [encode_append, ← known]; rfl⟩
  · exact ⟨chars, known⟩

/-- Bytes are text if they are so line by line. -/
theorem exists_encode_of_lines (bytes : List UInt8)
    (decodes : ∀ line ∈ splitLines bytes, (decodeLine line).isSome) :
    ∃ chars, bytes = encode chars := by
  by_cases more : 0x0A ∈ bytes
  · obtain ⟨line, rest, rfl, free⟩ := List.eq_append_cons_of_mem more
    rw [splitLines_ended free, List.forall_mem_cons] at decodes
    obtain ⟨first, firstDecodes⟩ := Option.isSome_iff_exists.mp decodes.1
    obtain ⟨whole, rfl⟩ := exists_encode_of_withoutLast (eq_encode_of_decodeLine firstDecodes)
    obtain ⟨others, rfl⟩ := exists_encode_of_lines rest decodes.2
    exact ⟨whole ++ '\n' :: others, by rw [encode_append, encode_cons]; rfl⟩
  · rw [splitLines_of_free more] at decodes
    split at decodes
    · rename_i none
      exact ⟨[], none⟩
    · obtain ⟨chars, known⟩ :=
        Option.isSome_iff_exists.mp (decodes bytes (List.mem_singleton_self _))
      exact ⟨chars, eq_encode_of_decodeLine known⟩
termination_by bytes.length
decreasing_by simp_all; omega

theorem decodes_iff {bytes : ByteArray} :
    (∀ line ∈ splitLines bytes.toList, (decodeLine line).isSome) ↔
      (String.fromUTF8? bytes).isSome := by
  constructor
  · intro decodes
    obtain ⟨chars, whole⟩ := exists_encode_of_lines _ decodes
    have same : bytes = ⟨(encode chars).toArray⟩ := by
      apply ByteArray.ext
      rw [← whole, Text.toList_eq_data, Array.toArray_toList]
    rw [same, Text.fromUTF8?_encode]
    rfl
  · intro isText
    obtain ⟨text, known⟩ := Option.isSome_iff_exists.mp isText
    rw [← Text.toUTF8_of_fromUTF8? known, Text.toList_toUTF8, splitLines_encode]
    intro line member
    obtain ⟨chars, _, rfl⟩ := List.mem_map.mp member
    rw [decodeLine_encode]
    rfl

end Decoding

/-- The lines before the first one that is not text. -/
def beginning : List (List UInt8) → List (List Char)
  | [] => []
  | line :: lines =>
      match decodeLine line with
      | none => []
      | some chars => chars :: beginning lines

/-- The faults of lines with invalid globs, which are numbered from the given number on. -/
def globFaults : (number : Nat) → List (List Char) → List IgnoreFault
  | _, [] => []
  | number, line :: lines =>
      match IgnoreRule.ofLine? line with
      | .ok _ => globFaults (number + 1) lines
      | .error error =>
          ⟨number, .badGlob (.ofList (IgnoreRule.trimLine line)) error⟩ ::
            globFaults (number + 1) lines

/-- The fault of the first line that is not text, if there is one. -/
def breaks (number : Nat) (lines : List (List UInt8)) : List IgnoreFault :=
  if lines.all fun line => (decodeLine line).isSome then
    []
  else
    [⟨number + (beginning lines).length, .unreadable .notText⟩]

/-- Lines as they are read from the given number on: only the first line of a file may begin with
byte order marks. -/
def unmarked (number : Nat) (lines : List (List Char)) : List (List Char) :=
  if number = 1 then withoutMarks lines else lines

section Reading

variable {number : Nat} {lines : List (List Char)}

@[simp]
theorem unmarked_nil : unmarked number [] = [] := by
  rw [unmarked]
  split <;> rfl

theorem unmarked_one : unmarked 1 lines = withoutMarks lines := by
  rw [unmarked, if_pos rfl]

theorem unmarked_cons (positive : 0 < number) (line : List Char) :
    unmarked number (line :: lines) =
      (if number = 1 then line.dropWhile (· == '\ufeff') else line) ::
        unmarked (number + 1) lines := by
  have later : ¬ number + 1 = 1 := by omega
  rw [unmarked, unmarked, if_neg later]
  split <;> rfl

@[simp]
theorem length_unmarked : (unmarked number lines).length = lines.length := by
  rw [unmarked]
  split
  · cases lines <;> rfl
  · rfl

theorem globFaults_eq_nil_iff :
    globFaults number lines = [] ↔ ∀ line ∈ lines, (IgnoreRule.ofLine? line).isOk = true := by
  induction lines generalizing number with
  | nil => simp [globFaults]
  | cons line lines ih =>
      rw [globFaults, List.forall_mem_cons]
      cases IgnoreRule.ofLine? line with
      | ok rule => simpa [Except.isOk, Except.toBool] using ih
      | error error => simp [Except.isOk, Except.toBool]

theorem badGlob_of_mem_globFaults {fault : IgnoreFault} (member : fault ∈ globFaults number lines) :
    ∃ line error, fault.fault = .badGlob line error := by
  induction lines generalizing number with
  | nil => cases member
  | cons line lines ih =>
      rw [globFaults] at member
      split at member
      · exact ih member
      · rcases List.mem_cons.mp member with rfl | further
        · exact ⟨_, _, rfl⟩
        · exact ih further

/-- Lines hold the rules and faults of those before the first one that is not text, and the fault
of that one. -/
theorem readLines_eq (positive : 0 < number) (lines : List (List UInt8)) :
    readLines number lines =
      ⟨(unmarked number (beginning lines)).filterMap IgnoreRule.ofValid?,
        globFaults number (unmarked number (beginning lines)) ++ breaks number lines⟩ := by
  induction lines generalizing number with
  | nil => simp [readLines, beginning, globFaults, breaks]
  | cons line lines ih =>
      rw [readLines, beginning, breaks, List.all_cons]
      cases decoded : decodeLine line with
      | none => simp [beginning, decoded, globFaults]
      | some chars =>
          have later : number + (chars :: beginning lines).length =
              number + 1 + (beginning lines).length := by
            rw [List.length_cons]
            omega
          have others := ih (Nat.succ_pos number)
          simp only [Option.isSome_some, Bool.true_and, beginning, decoded, later]
          rw [unmarked_cons positive, ← breaks, List.filterMap_cons, globFaults,
            IgnoreRule.ofValid?, others]
          generalize (if number = 1 then chars.dropWhile (· == '\ufeff') else chars) = kept
          cases IgnoreRule.ofLine? kept with
          | error error => rfl
          | ok rule? => cases rule? <;> rfl

end Reading

end IgnoreFile

namespace IgnoreRules

/-- The lines of a file before the first one that is not text. -/
def linesRead (files : FileSystem) (path : String) : List (List Char) :=
  match files.read path with
  | .ok bytes => IgnoreFile.withoutMarks (IgnoreFile.beginning (IgnoreFile.splitLines bytes.toList))
  | .error _ => []

/-- There is a file that is not text to its end, and none of the lines that can be read holds an
invalid glob. -/
structure Refused (files : FileSystem) (path : String) : Prop where
  isFile : files.isFile path = true
  unreadable : ∃ failure, files.readText path = .error failure
  valid : ∀ line ∈ linesRead files path, (IgnoreRule.ofLine? line).isOk = true

/-- The message that tells why a file is refused. -/
def refusal (files : FileSystem) (path : String) : String :=
  match files.read path with
  | .ok _ => IgnoreFault.message ⟨1 + (linesRead files path).length, .unreadable .notText⟩ path
  | .error failure => s!"{path}: {failure.message}"

/-- The ignore files that there are. -/
def present (files : FileSystem) (root : String) (names : List String) : List String :=
  (names.map (Path.join root)).filter files.isFile

section Refusing

open IgnoreFile

variable {files : FileSystem} {path root name : String} {names before behind : List String}

theorem ofBytes_eq {bytes : ByteArray} (read : files.read path = .ok bytes) :
    ofBytes bytes = ⟨(linesRead files path).filterMap IgnoreRule.ofValid?,
      globFaults 1 (linesRead files path) ++ breaks 1 (splitLines bytes.toList)⟩ := by
  rw [ofBytes, readLines_eq Nat.one_pos, linesRead, read, unmarked_one]

/-- A line that is not text is a fault, just if the whole file is not text. -/
theorem breaks_eq {bytes : ByteArray} (read : files.read path = .ok bytes) :
    breaks 1 (splitLines bytes.toList) = match files.readText path with
      | .ok _ => []
      | .error _ => [⟨1 + (linesRead files path).length, .unreadable .notText⟩] := by
  have length : (linesRead files path).length = (beginning (splitLines bytes.toList)).length := by
    rw [linesRead, read]
    simp only [← unmarked_one, length_unmarked]
  rw [FileSystem.readText, read, length, breaks]
  cases isText : String.fromUTF8? bytes with
  | none =>
      have broken :
          ¬ ((splitLines bytes.toList).all fun line => (decodeLine line).isSome) = true := by
        rw [List.all_eq_true, decodes_iff, isText]
        simp
      rw [if_neg broken]
      simp [bind, Except.bind, isText]
  | some text =>
      have whole : ((splitLines bytes.toList).all fun line => (decodeLine line).isSome) = true := by
        rw [List.all_eq_true, decodes_iff, isText]
        rfl
      rw [if_pos whole]
      simp [bind, Except.bind, isText]

/-- A refused file is an error, and names itself. -/
theorem readFile?_of_refused (refused : Refused files path) :
    readFile? files path = .error (.ignoreFile path (refusal files path)) := by
  rw [readFile?, if_pos refused.isFile, refusal]
  cases read : files.read path with
  | error failure => rfl
  | ok bytes =>
      obtain ⟨failure, unreadable⟩ := refused.unreadable
      simp only [ofBytes_eq read, globFaults_eq_nil_iff.mpr refused.valid, breaks_eq read,
        unreadable, List.nil_append]

/-- Any other file contributes the rules in its lines before the first one that is not text. -/
theorem readFile?_of_not_refused (isFile : files.isFile path = true)
    (tolerated : ¬ Refused files path) : ∃ content, readFile? files path = .ok (some content) ∧
      content.rules = (linesRead files path).filterMap IgnoreRule.ofValid? := by
  rw [readFile?, if_pos isFile]
  cases read : files.read path with
  | error failure =>
      have silent : linesRead files path = [] := by rw [linesRead, read]
      have unreadable : files.readText path = .error failure := by
        rw [FileSystem.readText, read]
        rfl
      exact absurd ⟨isFile, ⟨failure, unreadable⟩, by simp [silent]⟩ tolerated
  | ok bytes =>
      refine ⟨ofBytes bytes, ?_, by rw [ofBytes_eq read]⟩
      simp only [ofBytes_eq read, breaks_eq read]
      split
      · rename_i line failure single
        -- Either a bad glob is the single fault, or the file would be refused.
        exfalso
        cases globs : globFaults 1 (linesRead files path) with
        | nil =>
            rw [globs, List.nil_append] at single
            cases unreadable : files.readText path with
            | ok text => simp [unreadable] at single
            | error failure =>
                exact tolerated ⟨isFile, ⟨failure, unreadable⟩, globFaults_eq_nil_iff.mp globs⟩
        | cons fault more =>
            obtain ⟨_, _, isGlob⟩ := badGlob_of_mem_globFaults (globs ▸ List.mem_cons_self)
            rw [globs] at single
            obtain ⟨rfl, _⟩ := List.cons.inj single
            cases isGlob
      · rfl

theorem foldlM_addFile_of_not_refused
    (tolerated : ∀ name ∈ names, ¬ Refused files (Path.join root name))
    (earlier : List IgnoreRule) (sources : List String) :
    names.foldlM (addFile files) ⟨root, earlier, sources⟩ =
      .ok ⟨root, earlier ++
          ((present files root names).flatMap (linesRead files)).filterMap IgnoreRule.ofValid?,
        sources ++ present files root names⟩ := by
  induction names generalizing earlier sources with
  | nil => simp [present]; rfl
  | cons name names ih =>
      obtain ⟨here, others⟩ := List.forall_mem_cons.mp tolerated
      rw [present, List.map_cons, List.filter_cons]
      cases isFile : files.isFile (Path.join root name) with
      | false => exact bind_eq_ok_iff.mpr ⟨_, addFile_of_missing isFile, ih others earlier sources⟩
      | true =>
          obtain ⟨content, read, rules⟩ := readFile?_of_not_refused isFile here
          refine bind_eq_ok_iff.mpr ⟨_, bind_eq_ok_iff.mpr ⟨_, read, rfl⟩, ?_⟩
          rw [ih others, rules]
          simp [present]

/-- The first refused file is the error. -/
theorem load_of_refused (tolerated : ∀ other ∈ before, ¬ Refused files (Path.join root other))
    (refused : Refused files (Path.join root name)) (behind patterns : List String) :
    load files root (before ++ name :: behind) patterns =
      .error (.ignoreFile (Path.join root name) (refusal files (Path.join root name))) := by
  rw [load, List.foldlM_append, foldlM_addFile_of_not_refused tolerated]
  simp only [bind, Except.bind, List.foldlM_cons, addFile, readFile?_of_refused refused]

end Refusing

end IgnoreRules

open IgnoreRules in
/-- An ignore file that is not text to its end is an error, unless a line that can be read holds an
invalid glob: the first such file is the one that the error names, and a check ends with it.
Where no file is refused, those that there are contribute the rules in the lines before the first
one that is not text. -/
theorem unreadable_ignore_file_refused (files : FileSystem) (root : String)
    (names patterns : List String) :
    (∀ before name behind, names = before ++ name :: behind →
      (∀ other ∈ before, ¬ Refused files (Path.join root other)) →
      Refused files (Path.join root name) →
      load files root names patterns =
          .error (.ignoreFile (Path.join root name) (refusal files (Path.join root name))) ∧
        ∀ config environment durationMs, config.scan.effectiveIgnoreFiles = names →
          config.scan.extraIgnore = patterns →
          (Check.run config files root environment durationMs).outcome =
            .error (.scan (.ignoreFile (Path.join root name)
              (refusal files (Path.join root name))))) ∧
    ((∀ name ∈ names, ¬ Refused files (Path.join root name)) →
      load files root names patterns = patterns.foldlM addPattern
        ⟨root,
          ((present files root names).flatMap (linesRead files)).filterMap IgnoreRule.ofValid?,
          present files root names⟩) := by
  refine ⟨?_, fun tolerated => ?_⟩
  · rintro before name behind rfl tolerated refused
    have fails := load_of_refused tolerated refused behind patterns
    refine ⟨fails, ?_⟩
    rintro config environment durationMs named rfl
    refine Check.outcome_eq_error_iff.mpr (.inl ⟨_, ?_, rfl⟩)
    rw [Check.survey, named, fails]
    rfl
  · rw [load, foldlM_addFile_of_not_refused tolerated]
    rfl

namespace BrokenFile

open IgnoreRules

/-- A tree with one ignore file, which has the given line, one that is not text, and one more. -/
def files (line : String) : FileSystem where
  root := ⟨true, [(".gitignore",
    .file true ⟨(Text.encode line.toList ++ [0x0A, 0xFF, 0x0A, 0x61]).toArray⟩)]⟩
  workingDirectory := "/"

def path : String := "/.gitignore"

theorem located (line : String) : (files line).locate path = .ok (.file true
    ⟨(Text.encode line.toList ++ [0x0A, 0xFF, 0x0A, 0x61]).toArray⟩, FileSystem.linkLimit) :=
  have isName : IsName ".gitignore" := by decide
  FileSystem.locate_join (files line).locate_top isName rfl (by decide) (by decide)

theorem isFile (line : String) : (files line).isFile path = true := by
  rw [FileSystem.isFile, located]

theorem read (line : String) : (files line).read path =
    .ok ⟨(Text.encode line.toList ++ [0x0A, 0xFF, 0x0A, 0x61]).toArray⟩ := by
  rw [FileSystem.read, located]
  rfl

theorem unreadable : (files "b").readText path = .error .notText ∧
    (files "[z-a]").readText path = .error .notText := by
  constructor
  · rw [FileSystem.readText, read]
    decide
  · rw [FileSystem.readText, read]
    decide

theorem linesRead_eq : linesRead (files "b") path = ["b".toList] ∧
    linesRead (files "[z-a]") path = ["[z-a]".toList] := by
  constructor
  · rw [linesRead, read]
    simp only [Text.toList_eq_data]
    decide
  · rw [linesRead, read]
    simp only [Text.toList_eq_data]
    decide

theorem refused : Refused (files "b") path where
  isFile := isFile "b"
  unreadable := ⟨_, unreadable.1⟩
  valid := by
    rw [linesRead_eq.1, List.forall_mem_singleton]
    cbv

theorem tolerated : ¬ Refused (files "[z-a]") path := by
  intro refused
  have valid := refused.valid
  rw [linesRead_eq.2, List.forall_mem_singleton] at valid
  have invalid : (IgnoreRule.ofLine? "[z-a]".toList).isOk = false := by cbv
  cases valid.symm.trans invalid

end BrokenFile

open IgnoreRules in
theorem unreadable_ignore_file_refused_sample : Refused (BrokenFile.files "b") BrokenFile.path ∧
    load (BrokenFile.files "b") "/" [".gitignore"] [] =
      .error (.ignoreFile BrokenFile.path
        "/.gitignore: line 2: stream did not contain valid UTF-8") := by
  refine ⟨BrokenFile.refused, ?_⟩
  have fails := ((unreadable_ignore_file_refused (BrokenFile.files "b") "/" [".gitignore"] []).1 []
    ".gitignore" [] rfl (by simp) BrokenFile.refused).1
  have message : refusal (BrokenFile.files "b") BrokenFile.path =
      "/.gitignore: line 2: stream did not contain valid UTF-8" := by
    rw [refusal, BrokenFile.read, BrokenFile.linesRead_eq.1]
    decide
  have joined : Path.join "/" ".gitignore" = BrokenFile.path := by decide
  rw [fails, joined, message]

open IgnoreRules in
/-- Behind an invalid glob, a file is not refused though it is not text: its last line is lost. -/
theorem unreadable_ignore_file_passed_over :
    (BrokenFile.files "[z-a]").isFile BrokenFile.path = true ∧
      (BrokenFile.files "[z-a]").readText BrokenFile.path = .error .notText ∧
      load (BrokenFile.files "[z-a]") "/" [".gitignore"] [] = .ok ⟨"/", [], [BrokenFile.path]⟩ := by
  refine ⟨BrokenFile.isFile _, BrokenFile.unreadable.2, ?_⟩
  have tolerated : ∀ name ∈ [".gitignore"],
      ¬ Refused (BrokenFile.files "[z-a]") (Path.join "/" name) := by
    rw [List.forall_mem_singleton]
    exact BrokenFile.tolerated
  have there : present (BrokenFile.files "[z-a]") "/" [".gitignore"] = [BrokenFile.path] :=
    List.filter_cons_of_pos (BrokenFile.isFile _)
  have invalid : IgnoreRule.ofValid? "[z-a]".toList = Option.none := by cbv
  rw [load, foldlM_addFile_of_not_refused tolerated, there]
  simp only [List.flatMap_singleton, BrokenFile.linesRead_eq.2, List.filterMap_cons, invalid]
  rfl

end EnvAudit
