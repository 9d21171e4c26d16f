import EnvAudit.Proofs.Check.Overlooked
import EnvAudit.Proofs.Config.Layers
import EnvAudit.Proofs.Ignore.Lines

/-!
# Layers of ignore rules

The ignore files of a tree and the patterns given besides them make up one list of lines.  Of the
rules in it that apply to an entry the last one decides, whatever file or pattern it comes from.
So what comes later wins, and a line that is no valid rule has no effect on others.
-/

namespace EnvAudit

namespace IgnoreRule

/-- The rule that a line holds.  A line with an invalid glob holds none. -/
def ofValid? (line : List Char) : Option IgnoreRule :=
  (ofLine? line).toOption.join

/-- The last of the rules that apply to an entry. -/
def lastApplying? (rules : List IgnoreRule) (path : ByteArray) (isDirectory : Bool) :
    Option IgnoreRule :=
  (rules.filter fun rule => rule.applies path isDirectory).getLast?

/-- Some rule applies to an entry, and the last one that does is not negated. -/
def LeaveOut (rules : List IgnoreRule) (path : ByteArray) (isDirectory : Bool) : Prop :=
  ∃ rule, lastApplying? rules path isDirectory = some rule ∧ rule.negated = false

/-- Where some of the later rules apply to an entry, they alone decide about it, and elsewhere the
earlier rules do. -/
structure Overridden (earlier later : List IgnoreRule) (path : ByteArray) (isDirectory : Bool)
    (ignored : Prop) : Prop where
  byLater : (∃ rule ∈ later, rule.applies path isDirectory = true) →
    (ignored ↔ LeaveOut later path isDirectory)
  byEarlier : (∀ rule ∈ later, rule.applies path isDirectory = false) →
    (ignored ↔ LeaveOut earlier path isDirectory)

section Deciding

variable {rules earlier later : List IgnoreRule} {path : ByteArray} {isDirectory : Bool}

theorem lastApplying?_append : lastApplying? (earlier ++ later) path isDirectory =
    (lastApplying? later path isDirectory).or (lastApplying? earlier path isDirectory) := by
  rw [lastApplying?, List.filter_append, List.getLast?_append]
  rfl

theorem lastApplying?_eq_none_iff : lastApplying? rules path isDirectory = none ↔
    ∀ rule ∈ rules, rule.applies path isDirectory = false := by
  simp [lastApplying?]

theorem overridden_append : Overridden earlier later path isDirectory
    (LeaveOut (earlier ++ later) path isDirectory) where
  byLater := by
    rintro ⟨rule, member, applies⟩
    have isSome : lastApplying? later path isDirectory ≠ none := by
      intro none
      have silent := lastApplying?_eq_none_iff.mp none rule member
      rw [applies] at silent
      cases silent
    obtain ⟨last, isLast⟩ := Option.ne_none_iff_exists'.mp isSome
    rw [LeaveOut, LeaveOut, lastApplying?_append, isLast, Option.some_or]
  byEarlier := by
    intro silent
    rw [LeaveOut, LeaveOut, lastApplying?_append, lastApplying?_eq_none_iff.mpr silent,
      Option.none_or]

end Deciding

end IgnoreRule

namespace IgnoreFile

/-- Lines without the byte order marks before the first one. -/
def withoutMarks : List (List Char) → List (List Char)
  | [] => []
  | first :: others => first.dropWhile (· == '\ufeff') :: others

/-- The lines of a text that hold a valid rule or none. -/
def validLines (text : String) : List (List Char) :=
  (withoutMarks (lines text.toList)).filter fun line => (IgnoreRule.ofLine? line).isOk

section Reading

open Text (encode)

/-- The lines of a text are read one after the other, and at worst a line is no glob. -/
theorem readLines_encode {number : Nat} (positive : 0 < number) (lines : List (List Char)) :
    (readLines number (lines.map encode)).rules =
      (if number = 1 then withoutMarks lines else lines).filterMap IgnoreRule.ofValid? ∧
    ∀ fault ∈ (readLines number (lines.map encode)).faults, ∃ line error,
      fault.fault = .badGlob line error := by
  induction lines generalizing number with
  | nil => exact ⟨by split <;> rfl, by simp [readLines]⟩
  | cons line lines ih =>
      obtain ⟨rules, faults⟩ := ih (Nat.succ_pos number)
      rw [if_neg (by omega)] at rules
      have whole : (if number = 1 then withoutMarks (line :: lines) else line :: lines) =
          (if number = 1 then line.dropWhile (· == '\ufeff') else line) :: lines := by
        split <;> rfl
      rw [whole, List.filterMap_cons, List.map_cons, readLines, decodeLine_encode]
      simp only
      generalize (if number = 1 then line.dropWhile (· == '\ufeff') else line) = kept
      rw [IgnoreRule.ofValid?]
      cases IgnoreRule.ofLine? kept with
      | error error =>
          refine ⟨rules, fun fault member => ?_⟩
          rcases List.mem_cons.mp member with rfl | member
          · exact ⟨_, error, rfl⟩
          · exact faults fault member
      | ok rule? =>
          cases rule? with
          | none => exact ⟨rules, faults⟩
          | some rule => exact ⟨congrArg (rule :: ·) rules, faults⟩

theorem ofBytes_toUTF8 (text : String) :
    (ofBytes text.toUTF8).rules =
      (withoutMarks (lines text.toList)).filterMap IgnoreRule.ofValid? ∧
    ∀ fault ∈ (ofBytes text.toUTF8).faults, ∃ line error, fault.fault = .badGlob line error := by
  rw [ofBytes, Text.toList_toUTF8, splitLines_encode]
  exact readLines_encode Nat.one_pos (lines text.toList)

theorem filterMap_validLines (text : String) :
    (validLines text).filterMap IgnoreRule.ofValid? = (ofBytes text.toUTF8).rules := by
  rw [validLines, List.filterMap_filter, (ofBytes_toUTF8 text).1]
  congr 1
  funext line
  rw [IgnoreRule.ofValid?]
  cases IgnoreRule.ofLine? line <;> rfl

end Reading

/-- A text ends its last line, if it has one, and begins with no byte order mark. -/
def Closed (text : String) : Prop :=
  (text.toList = [] ∨ text.toList.getLast? = some '\n') ∧ text.toList.head? ≠ some '\ufeff'

section Joining

variable {text before behind : String} {texts : List String}

theorem prefix_of_lines {text first : List Char} {others : List (List Char)}
    (cut : lines text = first :: others) : first <+: text := by
  by_cases more : '\n' ∈ text
  · obtain ⟨line, rest, rfl, free⟩ := List.eq_append_cons_of_mem more
    rw [lines_ended free] at cut
    obtain ⟨rfl, _⟩ := List.cons.inj cut
    refine List.IsPrefix.trans ?_ (List.prefix_append line _)
    rw [withoutLast]
    split
    · exact List.dropLast_prefix line
    · exact List.prefix_rfl
  · rw [lines_of_free more] at cut
    split at cut
    · cases cut
    · obtain ⟨rfl, _⟩ := List.cons.inj cut
      exact List.prefix_rfl

theorem withoutMarks_of_unmarked {text : List Char} (unmarked : text.head? ≠ some '\ufeff') :
    withoutMarks (lines text) = lines text := by
  cases cut : lines text with
  | nil => rfl
  | cons first others =>
      obtain ⟨rest, rfl⟩ := prefix_of_lines cut
      cases first with
      | nil => rfl
      | cons c first =>
          have other : c ≠ '\ufeff' := by simpa using unmarked
          rw [withoutMarks, List.dropWhile_cons_of_neg (by simpa using other)]

theorem Closed.append (first : Closed before) (second : Closed behind) :
    Closed (before ++ behind) := by
  obtain ⟨ends, begins⟩ := first
  obtain ⟨endsBehind, beginsBehind⟩ := second
  rw [Closed, String.toList_append]
  rcases ends with empty | ends
  · rw [empty, List.nil_append]
    exact ⟨endsBehind, beginsBehind⟩
  · obtain ⟨inner, whole⟩ := List.getLast?_eq_some_iff.mp ends
    refine ⟨.inr ?_, ?_⟩
    · rcases endsBehind with empty | endsBehind
      · rw [empty, List.append_nil, ends]
      · rw [List.getLast?_append, endsBehind, Option.some_or]
    · rw [whole] at begins ⊢
      cases inner with
      | nil => simp
      | cons c inner => simpa using begins

theorem validLines_append (first : Closed before) (second : Closed behind) :
    validLines (before ++ behind) = validLines before ++ validLines behind := by
  have both := first.append second
  rw [validLines, validLines, validLines, withoutMarks_of_unmarked both.2,
    withoutMarks_of_unmarked first.2, withoutMarks_of_unmarked second.2, String.toList_append,
    lines_append first.1, List.filter_append]

theorem closed_join (closed : ∀ text ∈ texts, Closed text) : Closed (String.join texts) := by
  induction texts with
  | nil => exact ⟨.inl rfl, by simp⟩
  | cons text texts ih =>
      obtain ⟨first, others⟩ := List.forall_mem_cons.mp closed
      rw [String.join_cons]
      exact first.append (ih others)

theorem validLines_join (closed : ∀ text ∈ texts, Closed text) :
    validLines (String.join texts) = texts.flatMap validLines := by
  induction texts with
  | nil => rfl
  | cons text texts ih =>
      obtain ⟨first, others⟩ := List.forall_mem_cons.mp closed
      rw [String.join_cons, validLines_append first (closed_join others), ih others,
        List.flatMap_cons]

end Joining

end IgnoreFile

namespace IgnoreRules

open IgnoreFile IgnoreRule

/-- The texts of the ignore files that a tree has, in the order of their names. -/
def texts (files : FileSystem) (root : String) (names : List String) : List String :=
  names.filterMap fun name =>
    let path := Path.join root name
    if files.isFile path then (files.readText path).toOption else Option.none

/-- The ignore files that a tree has can be read, and they hold text. -/
def Readable (files : FileSystem) (root : String) (names : List String) : Prop :=
  ∀ name ∈ names, files.isFile (Path.join root name) = true →
    ∃ text, files.readText (Path.join root name) = .ok text

/-- The rules in the valid lines of the ignore files, and after them those in the patterns. -/
def layered (files : FileSystem) (root : String) (names patterns : List String) :
    List IgnoreRule :=
  ((texts files root names).flatMap validLines ++ patterns.map String.toList).filterMap ofValid?

/-- The bytes of a path as the rules of the tree at `root` see it. -/
def seen (root relative : String) : ByteArray :=
  (stripped { none with root } relative).toUTF8

/-- For every path below the root, later rules win over earlier ones. -/
def Layers (rules : IgnoreRules) (earlier later : List IgnoreRule) : Prop :=
  ∀ relative isDirectory, Overridden earlier later (seen rules.root relative) isDirectory
    (rules.isIgnored relative isDirectory = true)

/-- Rules are loaded that leave out the same entries as the given ones. -/
def LoadsAlike (rules : IgnoreRules) (loaded : Except ScanError IgnoreRules) : Prop :=
  ∃ same, loaded = .ok same ∧ ∀ relative isDirectory,
    same.isIgnored relative isDirectory = rules.isIgnored relative isDirectory

section Loading

variable {files : FileSystem} {root : String} {names patterns : List String}

theorem read_of_readText {path text : String} (read : files.readText path = .ok text) :
    files.read path = .ok text.toUTF8 := by
  obtain ⟨bytes, found, decoded⟩ := bind_eq_ok_iff.mp read
  split at decoded
  · rename_i known
    cases decoded
    rw [String.fromUTF8?] at known
    split at known
    · cases known
      exact found
    · cases known
  · cases decoded

theorem addFile_of_text {rules : IgnoreRules} {name text : String}
    (isFile : files.isFile (Path.join rules.root name) = true)
    (read : files.readText (Path.join rules.root name) = .ok text) :
    addFile files rules name = .ok { rules with
      rules := rules.rules ++ (validLines text).filterMap ofValid?
      sources := rules.sources ++ [Path.join rules.root name] } := by
  have content : readFile? files (Path.join rules.root name) =
      .ok (some (ofBytes text.toUTF8)) := by
    rw [readFile?, if_pos isFile, read_of_readText read]
    simp only
    split
    · rename_i line failure known
      obtain ⟨_, _, badGlob⟩ := (ofBytes_toUTF8 text).2 ⟨line, .unreadable failure⟩
        (known ▸ List.mem_singleton_self _)
      cases badGlob
    · rfl
  rw [filterMap_validLines]
  exact bind_eq_ok_iff.mpr ⟨_, content, rfl⟩

theorem foldlM_addFile (readable : Readable files root names) (before : List IgnoreRule)
    (sources : List String) : ∃ after, names.foldlM (addFile files) ⟨root, before, sources⟩ =
      .ok ⟨root, before ++ ((texts files root names).flatMap validLines).filterMap ofValid?,
        after⟩ := by
  induction names generalizing before sources with
  | nil => exact ⟨sources, by simp [texts]; rfl⟩
  | cons name names ih =>
      obtain ⟨here, others⟩ := List.forall_mem_cons.mp readable
      cases isFile : files.isFile (Path.join root name) with
      | false =>
          obtain ⟨after, added⟩ := ih others before sources
          refine ⟨after, bind_eq_ok_iff.mpr ⟨_, addFile_of_missing isFile, ?_⟩⟩
          rw [added, texts, texts, List.filterMap_cons]
          simp [isFile]
      | true =>
          obtain ⟨text, read⟩ := here isFile
          obtain ⟨after, added⟩ := ih others
            (before ++ (validLines text).filterMap ofValid?) (sources ++ [Path.join root name])
          refine ⟨after, bind_eq_ok_iff.mpr ⟨_, addFile_of_text isFile read, ?_⟩⟩
          rw [added, texts, texts, List.filterMap_cons]
          simp [isFile, read, Except.toOption]

theorem foldlM_addPattern
    (valid : ∀ pattern ∈ patterns, (IgnoreRule.ofLine? pattern.toList).isOk = true)
    (before : List IgnoreRule) (sources : List String) :
    patterns.foldlM addPattern ⟨root, before, sources⟩ =
      .ok ⟨root, before ++ (patterns.map String.toList).filterMap ofValid?, sources⟩ := by
  induction patterns generalizing before with
  | nil => simp; rfl
  | cons pattern patterns ih =>
      obtain ⟨here, others⟩ := List.forall_mem_cons.mp valid
      rw [List.foldlM_cons, addPattern, List.map_cons, List.filterMap_cons, ofValid?]
      cases known : IgnoreRule.ofLine? pattern.toList with
      | error error => simp [known, Except.isOk, Except.toBool] at here
      | ok rule? =>
          cases rule? with
          | none => exact ih others before
          | some rule =>
              have added := ih others (before ++ [rule])
              rw [List.append_assoc] at added
              exact added

/-- The rules of a tree are those in the valid lines of its ignore files and in the patterns. -/
theorem load_eq_ok (readable : Readable files root names)
    (valid : ∀ pattern ∈ patterns, (IgnoreRule.ofLine? pattern.toList).isOk = true) :
    ∃ sources, load files root names patterns =
      .ok ⟨root, layered files root names patterns, sources⟩ := by
  obtain ⟨sources, added⟩ := foldlM_addFile readable [] []
  refine ⟨sources, bind_eq_ok_iff.mpr ⟨_, added, ?_⟩⟩
  rw [foldlM_addPattern valid, layered, List.filterMap_append, List.nil_append]

end Loading

section Verdicts

variable {files others : FileSystem} {root relative : String} {isDirectory : Bool}
variable {names otherNames patterns before behind : List String}

theorem isIgnored_iff {rules : List IgnoreRule} {sources : List String} :
    isIgnored ⟨root, rules, sources⟩ relative isDirectory = true ↔
      LeaveOut rules (seen root relative) isDirectory := by
  have decides : deciding? ⟨root, rules, sources⟩ relative isDirectory =
      lastApplying? rules (seen root relative) isDirectory := List.getLast?_filter.symm
  rw [isIgnored, decides, LeaveOut, Option.any_eq_true]
  simp

theorem dropStart?_eq_none {start text : List Char} (other : ¬ start <+: text) :
    dropStart? start text = Option.none := by
  rw [dropStart?, if_neg (by simpa using other)]

theorem dropDot_of_plain {path : List Char} (plain : ¬ ['.', '/'] <+: path) :
    dropDot path = path := by
  rw [dropDot, dropStart?_eq_none plain]
  rfl

/-- Rules of a tree that is named from the root of the file system, or as the working directory,
see paths below it as they are. -/
theorem seen_of_plain (known : Path.isAbsolute root = true ∨ root = ".")
    (below : Path.isAbsolute relative = false) (plain : ¬ ['.', '/'] <+: relative.toList) :
    seen root relative = relative.toUTF8 := by
  have whole : stripped { none with root } relative = relative := by
    rw [stripped, dropDot_of_plain plain, String.ofList_toList]
    rcases known with absolute | rfl
    · obtain ⟨rest, letters⟩ := List.head?_eq_some_iff.mp (eq_of_beq absolute)
      have outside : ¬ '/' :: rest <+: relative.toList := by
        rintro ⟨behind, text⟩
        rw [Path.isAbsolute, ← text] at below
        cases below
      rw [letters, dropDot_of_plain (by simp), dropStart?_eq_none outside]
      split <;> rfl
    · rfl
  rw [seen, whole]

theorem layered_append_names : layered files root (before ++ behind) patterns =
    layered files root before [] ++ layered files root behind patterns := by
  simp [layered, texts]

theorem layered_append_patterns : layered files root names (before ++ behind) =
    layered files root names before ++ layered files root [] behind := by
  simp [layered, texts]

theorem layers_of_append {earlier later : List IgnoreRule} {sources : List String} :
    Layers ⟨root, earlier ++ later, sources⟩ earlier later := by
  intro relative isDirectory
  rw [isIgnored_iff]
  exact overridden_append

/-- Files with the same valid lines give the same rules, however many files they are. -/
theorem loadsAlike_of_validLines {sources : List String}
    (readable : Readable others root otherNames)
    (valid : ∀ pattern ∈ patterns, (IgnoreRule.ofLine? pattern.toList).isOk = true)
    (same : (texts others root otherNames).flatMap validLines =
      (texts files root names).flatMap validLines) :
    LoadsAlike ⟨root, layered files root names patterns, sources⟩
      (load others root otherNames patterns) := by
  obtain ⟨_, loaded⟩ := load_eq_ok readable valid
  refine ⟨_, loaded, fun relative isDirectory => ?_⟩
  rw [Bool.eq_iff_iff, isIgnored_iff, isIgnored_iff, layered, layered, same]

end Verdicts

end IgnoreRules

open IgnoreRules in
/-- Rules are loaded from ignore files that hold text and from valid patterns, and of those in the
valid lines the last that applies to an entry decides about it.  So later files win over earlier
ones, patterns over files, and patterns of the command line over those of the settings.  Invalid
lines change nothing, and one file does for several. -/
theorem ignore_rules_layered {files : FileSystem} {root : String} {names patterns : List String}
    (readable : Readable files root names)
    (valid : ∀ pattern ∈ patterns, (IgnoreRule.ofLine? pattern.toList).isOk = true) :
    ∃ rules, load files root names patterns = .ok rules ∧ rules.root = root ∧
      (∀ relative isDirectory, rules.isIgnored relative isDirectory = true ↔
        IgnoreRule.LeaveOut (layered files root names patterns) (seen root relative)
          isDirectory) ∧
      (Path.isAbsolute root = true ∨ root = "." → ∀ relative, Path.isAbsolute relative = false →
        ¬ ['.', '/'] <+: relative.toList → seen root relative = relative.toUTF8) ∧
      (∀ before behind, names = before ++ behind →
        rules.Layers (layered files root before []) (layered files root behind patterns)) ∧
      (∀ before behind, patterns = before ++ behind →
        rules.Layers (layered files root names before) (layered files root [] behind)) ∧
      (∀ settings place named environment overrides config,
        Config.load settings place named environment overrides = .ok config →
        config.scan.extraIgnore = patterns →
        ∃ project, Config.ProjectGives settings place named project ∧
          rules.Layers (layered files root names project.scan.extraIgnore)
            (layered files root [] overrides.extraIgnore)) ∧
      ∀ others otherNames, Readable others root otherNames →
        ((texts others root otherNames).flatMap IgnoreFile.validLines =
            (texts files root names).flatMap IgnoreFile.validLines →
          rules.LoadsAlike (load others root otherNames patterns)) ∧
        ((∀ text ∈ texts files root names, IgnoreFile.Closed text) →
          texts others root otherNames = [String.join (texts files root names)] →
          rules.LoadsAlike (load others root otherNames patterns)) := by
  obtain ⟨sources, loaded⟩ := load_eq_ok readable valid
  refine ⟨_, loaded, rfl, fun _ _ => isIgnored_iff, fun known _ => seen_of_plain known, ?_, ?_,
    ?_, ?_⟩
  · rintro before behind rfl
    rw [layered_append_names]
    exact layers_of_append
  · rintro before behind rfl
    rw [layered_append_patterns]
    exact layers_of_append
  · rintro settings place named environment overrides config configured rfl
    have given : Config.load settings place named environment ((some overrides).getD {}) =
        .ok config := configured
    obtain ⟨project, _, gives, _, resolved, _⟩ := Config.load_eq_ok_iff.mp given
    refine ⟨project, gives, ?_⟩
    rw [resolved.extraIgnore, layered_append_patterns]
    exact layers_of_append
  · intro others otherNames otherReadable
    refine ⟨loadsAlike_of_validLines otherReadable valid, fun closed single =>
      loadsAlike_of_validLines otherReadable valid ?_⟩
    rw [single, List.flatMap_singleton, IgnoreFile.validLines_join closed]

namespace TwoLayers

open IgnoreRules

def first : String := "build\n[z-a]\n!build\n"

def second : String := "build\r\n"

def files : FileSystem where
  root := ⟨true, [(".gitignore", .file true first.toUTF8), (".extra", .file true second.toUTF8)]⟩
  workingDirectory := "/"

def names : List String := [".gitignore", ".missing", ".extra"]

def patterns : List String := ["!build/"]

theorem holds {name text : String} (isName : IsName name)
    (listed : files.top.here.entries.lookup name = some (.file true text.toUTF8))
    (noNul : (Path.join "/" name).toList.contains '\x00' = false)
    (short : (Path.join "/" name).utf8ByteSize ≤ FileSystem.pathLimit) :
    files.isFile (Path.join "/" name) = true ∧ files.readText (Path.join "/" name) = .ok text := by
  have located := FileSystem.locate_join files.locate_top isName listed noNul short
  constructor
  · rw [FileSystem.isFile, located]
    rfl
  · rw [FileSystem.readText, FileSystem.read, located]
    simp only [FileSystem.resolve, bind, Except.bind, FileSystem.contentOf,
      Text.fromUTF8?_toUTF8]

theorem holds_first : files.isFile (Path.join "/" ".gitignore") = true ∧
    files.readText (Path.join "/" ".gitignore") = .ok first :=
  holds (by decide) rfl (by decide) (by decide)

theorem holds_second : files.isFile (Path.join "/" ".extra") = true ∧
    files.readText (Path.join "/" ".extra") = .ok second :=
  holds (by decide) rfl (by decide) (by decide)

theorem missing : files.isFile (Path.join "/" ".missing") = false :=
  FileSystem.isFile_join_of_missing files.locate_top (by decide) rfl

theorem readable : Readable files "/" names := by
  intro name listed isFile
  simp only [names, List.mem_cons, List.not_mem_nil, or_false] at listed
  rcases listed with rfl | rfl | rfl
  · exact ⟨first, holds_first.2⟩
  · cases missing.symm.trans isFile
  · exact ⟨second, holds_second.2⟩

theorem valid : ∀ pattern ∈ patterns, (IgnoreRule.ofLine? pattern.toList).isOk = true := by
  intro pattern listed
  obtain rfl := List.mem_singleton.mp listed
  cbv

theorem layered_eq : layered files "/" names patterns =
    ([first, second].flatMap IgnoreFile.validLines ++ patterns.map String.toList).filterMap
      IgnoreRule.ofValid? := by
  rw [layered]
  simp [texts, names, holds_first, holds_second, missing, Except.toOption]

end TwoLayers

open IgnoreRules in
theorem ignore_rules_layered_sample :
    Readable TwoLayers.files "/" TwoLayers.names ∧
      (∀ pattern ∈ TwoLayers.patterns, (IgnoreRule.ofLine? pattern.toList).isOk = true) ∧
      ∃ rules, load TwoLayers.files "/" TwoLayers.names TwoLayers.patterns = .ok rules ∧
        rules.isIgnored "build" false = true ∧ rules.isIgnored "build" true = false := by
  obtain ⟨rules, loaded, _, decides, _⟩ :=
    ignore_rules_layered TwoLayers.readable TwoLayers.valid
  have last (isDirectory : Bool) : (IgnoreRule.lastApplying?
      (layered TwoLayers.files "/" TwoLayers.names TwoLayers.patterns) (seen "/" "build")
        isDirectory).map (·.negated) = some isDirectory := by
    rw [TwoLayers.layered_eq]
    cases isDirectory <;> cbv
  refine ⟨TwoLayers.readable, TwoLayers.valid, rules, loaded, ?_, ?_⟩
  · exact (decides "build" false).mpr (Option.map_eq_some_iff.mp (last false))
  · rw [← Bool.not_eq_true, decides]
    rintro ⟨rule, isLast, kept⟩
    obtain ⟨other, isOther, negated⟩ := Option.map_eq_some_iff.mp (last true)
    cases isLast.symm.trans isOther
    cases kept.symm.trans negated

end EnvAudit
