import EnvAudit.Check
import EnvAudit.Proofs.Walk.Moved

/-!
# Checks from two roots

A check tells of files by their paths, and of nothing else that depends on where its root is.  Where
two roots have the same tree below them, checks from them end in the same way, each with the paths
of its own root.
-/

namespace EnvAudit

inductive ParseError.Moved (root other : String) : ParseError → ParseError → Prop
  | grammarLoad (dialect message : String) :
      ParseError.Moved root other (.grammarLoad dialect message) (.grammarLoad dialect message)
  | invalidSource {path otherPath : String} (moved : MovedPath root other path otherPath)
      (line column : Nat) : ParseError.Moved root other (.invalidSource path line column)
        (.invalidSource otherPath line column)
  | noTree {path otherPath : String} (moved : MovedPath root other path otherPath) :
      ParseError.Moved root other (.noTree path) (.noTree otherPath)

inductive CheckError.Moved (root other : String) : CheckError → CheckError → Prop
  | scan {error otherError : ScanError} (moved : ScanError.Moved root other error otherError) :
      CheckError.Moved root other (.scan error) (.scan otherError)
  | parse {error otherError : ParseError} (moved : ParseError.Moved root other error otherError) :
      CheckError.Moved root other (.parse error) (.parse otherError)

inductive SkipCause.Moved (root other : String) : SkipCause → SkipCause → Prop
  | tooLarge (limit : Nat) : SkipCause.Moved root other (.tooLarge limit) (.tooLarge limit)
  | unparsable {error otherError : ParseError}
      (moved : ParseError.Moved root other error otherError) :
      SkipCause.Moved root other (.unparsable error) (.unparsable otherError)

inductive SkippedFile.Moved (root other : String) : SkippedFile → SkippedFile → Prop
  | mk {path otherPath : String} {cause otherCause : SkipCause}
      (moved : MovedPath root other path otherPath)
      (causes : SkipCause.Moved root other cause otherCause) :
      SkippedFile.Moved root other ⟨path, cause.reason⟩ ⟨otherPath, otherCause.reason⟩

/-- Names have been seen first in files that belong together, on one line and in one column. -/
inductive SeenFirst (root other : String) : String × Location → String × Location → Prop
  | mk {path otherPath : String} (name : String) (moved : MovedPath root other path otherPath)
      (line column : Nat) :
      SeenFirst root other (name, ⟨some path, line, column⟩) (name, ⟨some otherPath, line, column⟩)

inductive Event.Moved (root other : String) : Event → Event → Prop
  | started (fileCount ignored : Nat) :
      Event.Moved root other (.started root fileCount ignored) (.started other fileCount ignored)
  | checked {path otherPath : String} (moved : MovedPath root other path otherPath)
      (dialect : Dialect) (size names : Nat) : Event.Moved root other
        (.checked ⟨path, dialect, size⟩ names) (.checked ⟨otherPath, dialect, size⟩ names)
  | skipped {path otherPath : String} {cause otherCause : SkipCause}
      (moved : MovedPath root other path otherPath)
      (causes : SkipCause.Moved root other cause otherCause) :
      Event.Moved root other (.skipped path cause) (.skipped otherPath otherCause)
  | complete (scanned skipped found missing : Nat) : Event.Moved root other
      (.complete scanned skipped found missing) (.complete scanned skipped found missing)

/-- Two results are the same but for the roots, the paths below them and the time. -/
structure CheckResult.Moved (root other : String) (result otherResult : CheckResult) : Prop where
  ownRoot : result.root = some root
  otherRoot : otherResult.root = some other
  found : result.found = otherResult.found
  missing : result.missing = otherResult.missing
  firstSeen : List.Forall₂ (SeenFirst root other) result.firstSeen otherResult.firstSeen
  skipped : List.Forall₂ (SkippedFile.Moved root other) result.skipped otherResult.skipped
  filesScanned : result.statistics.filesScanned = otherResult.statistics.filesScanned
  filesSkipped : result.statistics.filesSkipped = otherResult.statistics.filesSkipped
  entriesIgnored : result.statistics.entriesIgnored = otherResult.statistics.entriesIgnored

/-- Two checks tell the same on the way and end in the same way. -/
structure CheckRun.Moved (root other : String) (run otherRun : CheckRun) : Prop where
  passedOver : List.Forall₂ (fun file otherFile => MovedPath root other file.1 otherFile.1 ∧
    file.2 = otherFile.2) run.passedOver otherRun.passedOver
  events : List.Forall₂ (Event.Moved root other) run.events otherRun.events
  outcome : Paired (CheckError.Moved root other) (CheckResult.Moved root other) run.outcome
    otherRun.outcome

namespace FileSystem

/-- Two paths lead to the same file, or neither leads to a file. -/
def SameFile (files others : FileSystem) (path otherPath : String) : Prop :=
  files.isFile path = others.isFile otherPath ∧
    (files.isFile path = true → files.read path = others.read otherPath)

variable {files others : FileSystem} {root other name path : String}

theorem SameFile.of_unlocated {otherPath : String}
    (unlocated : ∀ found, files.locate path ≠ .ok found)
    (otherUnlocated : ∀ found, others.locate otherPath ≠ .ok found) :
    files.SameFile others path otherPath := by
  have missing := isFile_of_unlocated unlocated
  refine ⟨missing.trans (isFile_of_unlocated otherUnlocated).symm, fun known => ?_⟩
  cases missing.symm.trans known

theorem unlocated_of_long (long : pathLimit < path.utf8ByteSize) :
    ∀ found, files.locate path ≠ .ok found :=
  fun _ located => absurd (short_of_locate located) (Nat.not_le.mpr long)

theorem lookup_eq_none_iff_names {entries : List (String × Entry)} :
    entries.lookup name = none ↔ name ∉ entries.map Prod.fst := by
  rw [List.lookup_eq_none_iff]
  constructor
  · rintro unlike listed
    obtain ⟨item, member, rfl⟩ := List.mem_map.mp listed
    simpa using unlike item member
  · intro unlisted item member
    have different : name ≠ item.1 := fun same => unlisted (same ▸ List.mem_map_of_mem member)
    simpa using different

/-- A path of names goes on from a root name by name. -/
theorem join_eq_path (areNames : ∀ part ∈ Path.parts path, IsName part) (root : String) :
    Path.join root path = Trail.path root (Path.parts path) := by
  obtain ⟨nonempty, _, whole⟩ := Text.split_eq_iff.mp (rfl : Text.split '/' path = Path.parts path)
  have relative : Path.isAbsolute path = false := by
    rw [whole]
    exact Trail.isAbsolute_relative areNames nonempty
  rw [Path.join_of_relative relative, Trail.path_eq areNames nonempty]
  exact congrArg (Trail.base root ++ ·) whole

variable {links otherLinks : Nat} {place otherPlace : Place} {otherPath : String}
variable {names : List String}

/-- Paths to the same target, and those behind them, lead to the same file or to none. -/
theorem SameTarget.sameFile
    (target : SameTarget (files.locate path) (others.locate otherPath))
    (nonempty : path ≠ "") (otherNonempty : otherPath ≠ "")
    (areNames : ∀ name ∈ names, IsName name) :
    files.SameFile others (Trail.path path names) (Trail.path otherPath names) := by
  generalize leads : files.locate path = first at target
  generalize otherLeads : others.locate otherPath = second at target
  cases target with
  | error failure =>
      exact .of_unlocated (unlocated_behind nonempty (by simp [leads]) areNames)
        (unlocated_behind otherNonempty (by simp [otherLeads]) areNames)
  | file readable content left otherLeft =>
      by_cases here : names = []
      · subst here
        rw [Trail.path_nil, Trail.path_nil, SameFile, isFile, isFile, read, read, leads, otherLeads]
        exact ⟨rfl, fun _ => rfl⟩
      · exact .of_unlocated (unlocated_below nonempty (by simp [leads]) areNames here)
          (unlocated_below otherNonempty (by simp [otherLeads]) areNames here)

/-- From places with the same below them, names lead to the same file or to none. -/
theorem SameBelow.sameFile (proper : files.Proper) (otherProper : others.Proper)
    (located : files.locate path = .ok (.directory place, links))
    (otherLocated : others.locate otherPath = .ok (.directory otherPlace, otherLinks))
    (below : SameBelow files others links otherLinks place otherPlace path otherPath
      place.here.entries otherPlace.here.entries)
    (areNames : ∀ name ∈ names, IsName name) :
    files.SameFile others (Trail.path path names) (Trail.path otherPath names) := by
  induction names generalizing path otherPath place otherPlace links otherLinks with
  | nil => simp [SameFile, isFile, located, otherLocated]
  | cons name names ih =>
      obtain ⟨isName, otherNames⟩ := List.forall_mem_cons.mp areNames
      have placeProper := proper.locate located
      have otherPlaceProper := otherProper.locate otherLocated
      have nonempty := isName.join_ne_empty path
      have otherNonempty := isName.join_ne_empty otherPath
      have of_unlocated (unlocated : ∀ found, files.locate (Path.join path name) ≠ .ok found)
          (otherUnlocated : ∀ found, others.locate (Path.join otherPath name) ≠ .ok found) :
          files.SameFile others (Trail.path (Path.join path name) names)
            (Trail.path (Path.join otherPath name) names) :=
        .of_unlocated (unlocated_behind nonempty unlocated otherNames)
          (unlocated_behind otherNonempty otherUnlocated otherNames)
      cases known : place.here.entries.lookup name with
      | none =>
          have otherMissing : otherPlace.here.entries.lookup name = none := by
            rw [lookup_eq_none_iff_names, ← below.names_eq, ← lookup_eq_none_iff_names]
            exact known
          exact of_unlocated (unlocated_join_of_missing located isName known)
            (unlocated_join_of_missing otherLocated isName otherMissing)
      | some entry =>
          obtain ⟨otherEntry, otherMember, fit, related⟩ := below.exists_mem (mem_of_lookup known)
          have otherKnown := otherPlaceProper.here.lookup_eq_some_iff.mpr otherMember
          have nul : (Path.join path name).toList.contains '\x00' =
              (Path.join otherPath name).toList.contains '\x00' :=
            Path.contains_join_eq isName (by decide)
              ((locate_eq_ok located).2.1.trans (locate_eq_ok otherLocated).2.1.symm)
          by_cases noNul : (Path.join path name).toList.contains '\x00' = false
          · by_cases long : pathLimit < (Path.join path name).utf8ByteSize
            · exact of_unlocated (unlocated_of_long long) (unlocated_of_long (fit.mp long))
            · have leads := locate_join located isName known noNul (Nat.le_of_not_lt long)
              have otherLeads := locate_join otherLocated isName otherKnown (nul ▸ noNul)
                (Nat.le_of_not_lt (fit.not.mp long))
              rcases related with target | ⟨_, _, _, _, resolved, otherResolved, inside⟩
              · rw [← leads, ← otherLeads] at target
                exact target.sameFile nonempty otherNonempty otherNames
              · exact ih (leads.trans resolved) (otherLeads.trans otherResolved) inside otherNames
          · exact of_unlocated (fun found located => noNul (locate_eq_ok located).2.1)
              fun found located => noNul (nul.trans (locate_eq_ok located).2.1)

/-- Under a path of names, the same tree has the same file or none. -/
theorem SameTree.sameFile (same : files.SameTree others root other) (proper : files.Proper)
    (otherProper : others.Proper) (areNames : ∀ part ∈ Path.parts path, IsName part) :
    files.SameFile others (Path.join root path) (Path.join other path) := by
  obtain ⟨place, links, otherPlace, otherLinks, located, otherLocated, _, below⟩ := same
  rw [join_eq_path areNames, join_eq_path areNames]
  exact below.sameFile proper otherProper located otherLocated areNames

end FileSystem

namespace IgnoreRules

variable {files others : FileSystem} {root other path otherPath : String}

/-- Rules hold the same for trees at two roots. -/
structure Moved (root other : String) (rules otherRules : IgnoreRules) : Prop where
  ownRoot : rules.root = root
  otherRoot : otherRules.root = other
  rules : rules.rules = otherRules.rules

theorem readFile?_moved (same : files.SameFile others path otherPath)
    (moved : MovedPath root other path otherPath) :
    Paired (ScanError.Moved root other) Eq (readFile? files path) (readFile? others otherPath) := by
  obtain ⟨isFile, read⟩ := same
  rw [readFile?, readFile?, ← isFile]
  split
  · rename_i known
    rw [← read known]
    cases files.read path with
    | error failure => exact .error (.ignoreFile moved failure)
    | ok bytes =>
        simp only
        split
        · exact .error (.ignoreLine moved _)
        · exact .ok rfl
  · exact .ok rfl

theorem addFile_moved (name : String) {rules otherRules : IgnoreRules}
    (rulesMoved : Moved root other rules otherRules)
    (same : files.SameFile others (Path.join root name) (Path.join other name)) :
    Paired (ScanError.Moved root other) (Moved root other) (addFile files rules name)
      (addFile others otherRules name) := by
  rw [addFile, addFile, rulesMoved.ownRoot, rulesMoved.otherRoot]
  refine (readFile?_moved same (.below name)).bind ?_
  rintro content _ rfl
  cases content with
  | none => exact .ok rulesMoved
  | some content =>
      exact .ok ⟨rfl, rfl, congrArg (· ++ content.rules) rulesMoved.rules⟩

theorem addPattern_moved {rules otherRules : IgnoreRules}
    (rulesMoved : Moved root other rules otherRules) (pattern : String) :
    Paired (ScanError.Moved root other) (Moved root other) (addPattern rules pattern)
      (addPattern otherRules pattern) := by
  rw [addPattern, addPattern]
  split
  · exact .ok rulesMoved
  · rename_i rule _
    exact .ok ⟨rulesMoved.ownRoot, rulesMoved.otherRoot, congrArg (· ++ [rule]) rulesMoved.rules⟩
  · exact .error (.pattern _)

/-- The same steps from rules that hold the same lead to rules that hold the same. -/
theorem foldlM_moved {step otherStep : IgnoreRules → String → Except ScanError IgnoreRules}
    {names : List String} (steps : ∀ name ∈ names, ∀ rules otherRules,
      Moved root other rules otherRules → Paired (ScanError.Moved root other) (Moved root other)
        (step rules name) (otherStep otherRules name))
    {rules otherRules : IgnoreRules} (rulesMoved : Moved root other rules otherRules) :
    Paired (ScanError.Moved root other) (Moved root other) (names.foldlM step rules)
      (names.foldlM otherStep otherRules) := by
  induction names generalizing rules otherRules with
  | nil => exact .ok rulesMoved
  | cons name names ih =>
      obtain ⟨here, further⟩ := List.forall_mem_cons.mp steps
      rw [List.foldlM_cons, List.foldlM_cons]
      exact (here rules otherRules rulesMoved).bind fun _ _ moved => ih further moved

/-- Trees with the same ignore files have the same rules. -/
theorem load_moved {names : List String}
    (same : ∀ name ∈ names, files.SameFile others (Path.join root name) (Path.join other name))
    (patterns : List String) :
    Paired (ScanError.Moved root other) (Moved root other) (load files root names patterns)
      (load others other names patterns) := by
  have start : Moved root other ⟨root, [], []⟩ ⟨other, [], []⟩ := ⟨rfl, rfl, rfl⟩
  have added : Paired (ScanError.Moved root other) (Moved root other)
      (names.foldlM (addFile files) ⟨root, [], []⟩)
      (names.foldlM (addFile others) ⟨other, [], []⟩) :=
    foldlM_moved (fun name member _ _ moved => addFile_moved name moved (same name member)) start
  rw [load, load]
  refine added.bind fun rules otherRules moved => ?_
  exact foldlM_moved (fun pattern _ _ _ moved => addPattern_moved moved pattern) moved

theorem passedOver_moved {names : List String}
    (same : ∀ name ∈ names, files.SameFile others (Path.join root name) (Path.join other name)) :
    List.Forall₂ (fun file otherFile => MovedPath root other file.1 otherFile.1 ∧
        file.2 = otherFile.2) (passedOver files root names) (passedOver others other names) := by
  induction names with
  | nil => exact .nil
  | cons name names ih =>
      obtain ⟨here, further⟩ := List.forall_mem_cons.mp same
      have moved : MovedPath root other (Path.join root name) (Path.join other name) := .below name
      have paired := readFile?_moved here moved
      rw [passedOver, passedOver]
      generalize readFile? files (Path.join root name) = first at paired ⊢
      generalize readFile? others (Path.join other name) = second at paired ⊢
      cases paired with
      | error related => exact .nil
      | ok related =>
          rename_i content _
          subst related
          cases content with
          | none => exact ih further
          | some content =>
              simp only
              split
              · exact ih further
              · exact .cons ⟨moved, rfl⟩ (ih further)

end IgnoreRules

namespace Findings

variable {root other path otherPath : String}
variable {seen otherSeen : List (String × Location)}

theorem lookup_eq_none_of_seenFirst (same : List.Forall₂ (SeenFirst root other) seen otherSeen)
    (name : String) : seen.lookup name = none ↔ otherSeen.lookup name = none := by
  induction same with
  | nil => rfl
  | cons here further ih =>
      obtain ⟨first, moved, line, column⟩ := here
      rw [List.lookup_cons, List.lookup_cons]
      split
      · simp
      · exact ih

/-- As much has been gathered in two checks. -/
structure Moved (root other : String) (findings otherFindings : Findings) : Prop where
  names : findings.names = otherFindings.names
  firstSeen : List.Forall₂ (SeenFirst root other) findings.firstSeen otherFindings.firstSeen
  skipped : List.Forall₂ (SkippedFile.Moved root other) findings.skipped otherFindings.skipped

namespace Moved

variable {findings otherFindings : Findings}

theorem addReference (same : Moved root other findings otherFindings)
    (moved : MovedPath root other path otherPath) (reference : Reference) :
    Moved root other (findings.addReference (some path) reference)
      (otherFindings.addReference (some otherPath) reference) := by
  have lookups := lookup_eq_none_of_seenFirst same.firstSeen reference.name
  rw [Findings.addReference, Findings.addReference]
  cases known : findings.firstSeen.lookup reference.name with
  | none =>
      have otherUnknown := lookups.mp known
      rw [otherUnknown]
      refine ⟨congrArg (· ++ [reference.name]) same.names, ?_, same.skipped⟩
      simp only [place_of_unknown known, place_of_unknown otherUnknown]
      exact List.rel_append same.firstSeen (.cons (.mk _ moved _ _) .nil)
  | some place =>
      cases otherKnown : otherFindings.firstSeen.lookup reference.name with
      | none => cases known.symm.trans (lookups.mpr otherKnown)
      | some otherPlace => exact same

theorem foldl_mergeReference (moved : MovedPath root other path otherPath)
    (references : List Reference) (names : List String)
    (same : Moved root other findings otherFindings) :
    (references.foldl (mergeReference (some path)) (names, findings)).1 =
        (references.foldl (mergeReference (some otherPath)) (names, otherFindings)).1 ∧
      Moved root other (references.foldl (mergeReference (some path)) (names, findings)).2
        (references.foldl (mergeReference (some otherPath)) (names, otherFindings)).2 := by
  induction references generalizing names findings otherFindings with
  | nil => exact ⟨rfl, same⟩
  | cons reference references ih =>
      rw [List.foldl_cons, List.foldl_cons, mergeReference, mergeReference]
      split
      · exact ih names same
      · exact ih _ (same.addReference moved reference)

end Moved

end Findings

namespace Check

variable {files others : FileSystem} {root other : String}

theorem parseError_moved {path otherPath : String} (moved : MovedPath root other path otherPath)
    (error : ParseError) :
    ParseError.Moved root other (error.atPath path) (error.atPath otherPath) := by
  cases error with
  | grammarLoad dialect message => exact .grammarLoad dialect message
  | invalidSource _ line column => exact .invalidSource moved line column
  | noTree _ => exact .noTree moved

theorem readSource_moved {path otherPath : String} (moved : MovedPath root other path otherPath)
    (content : files.read path = others.read otherPath) :
    Paired (ScanError.Moved root other) Eq (readSource files path)
      (readSource others otherPath) := by
  rw [readSource, readSource, content]
  cases others.read otherPath with
  | error failure => exact .error (.io moved failure)
  | ok bytes =>
      simp only
      cases String.fromUTF8? bytes with
      | none => exact .error (.unsupportedEncoding moved _)
      | some text => exact .ok rfl

/-- Files with the same bytes have the same references, or fail to be read in the same way. -/
theorem readFile_moved {file otherFile : SourceFile}
    (same : SourceFile.Moved files others root other file otherFile) (session : Session) :
    Paired (CheckError.Moved root other) Eq (readFile files session file).1
        (readFile others session otherFile).1 ∧
      (readFile files session file).2 = (readFile others session otherFile).2 := by
  have texts := readSource_moved same.path same.content
  rw [readFile, readFile, same.dialect]
  generalize readSource files file.path = first at texts ⊢
  generalize readSource others otherFile.path = second at texts ⊢
  cases texts with
  | error related => exact ⟨.error (.scan related), rfl⟩
  | @ok text _ related =>
      subst related
      refine ⟨?_, rfl⟩
      simp only
      cases (session.references text otherFile.dialect).1 with
      | error error => exact .error (.parse (parseError_moved same.path error))
      | ok references => exact .ok rfl

/-- As much is known in two checks while the files are read. -/
structure Progress.Moved (root other : String) (progress otherProgress : Progress) : Prop where
  findings : Findings.Moved root other progress.findings otherProgress.findings
  events : List.Forall₂ (Event.Moved root other) progress.events otherProgress.events
  scanned : progress.scanned = otherProgress.scanned
  session : progress.session = otherProgress.session

namespace Progress.Moved

variable {progress otherProgress : Progress} {path otherPath : String}

theorem skip (same : Progress.Moved root other progress otherProgress)
    (moved : MovedPath root other path otherPath) {cause otherCause : SkipCause}
    (causes : SkipCause.Moved root other cause otherCause) :
    Progress.Moved root other (progress.skip path cause) (otherProgress.skip otherPath otherCause)
    where
  findings := ⟨same.findings.names, same.findings.firstSeen,
    List.rel_append same.findings.skipped (.cons (.mk moved causes) .nil)⟩
  events := List.rel_append same.events (.cons (.skipped moved causes) .nil)
  scanned := same.scanned
  session := same.session

theorem add (same : Progress.Moved root other progress otherProgress) {file otherFile : SourceFile}
    (alike : SourceFile.Moved files others root other file otherFile)
    (references : List Reference) :
    Progress.Moved root other (progress.add file references)
      (otherProgress.add otherFile references) := by
  obtain ⟨path, dialect, size⟩ := file
  obtain ⟨otherPath, _, _⟩ := otherFile
  obtain ⟨moved, rfl, rfl, _⟩ := alike
  have merged := Findings.Moved.foldl_mergeReference moved references [] same.findings
  constructor
  · exact merged.2
  · refine List.rel_append same.events (.cons ?_ .nil)
    have counts := congrArg List.length merged.1
    simp only [Findings.addReferences, counts]
    exact .checked moved _ _ _
  · exact congrArg (· + 1) same.scanned
  · exact same.session

end Progress.Moved

/-- Reading files with the same bytes goes as far, and ends in the same way. -/
theorem readFiles_moved {sources otherSources : List SourceFile}
    (alike : List.Forall₂ (SourceFile.Moved files others root other) sources otherSources)
    (policy : ParseErrorPolicy) {progress otherProgress : Progress}
    (same : Progress.Moved root other progress otherProgress) :
    Progress.Moved root other (readFiles files policy sources progress).1
        (readFiles others policy otherSources otherProgress).1 ∧
      Option.Rel (CheckError.Moved root other) (readFiles files policy sources progress).2
        (readFiles others policy otherSources otherProgress).2 := by
  induction alike generalizing progress otherProgress with
  | nil => exact ⟨same, .none⟩
  | @cons file otherFile sources otherSources here further ih =>
      have read := readFile_moved here progress.session
      rw [readFiles, readFiles, ← same.session]
      generalize readFile files progress.session file = first at read ⊢
      generalize readFile others progress.session otherFile = second at read ⊢
      obtain ⟨found, session⟩ := first
      obtain ⟨otherFound, otherSession⟩ := second
      obtain ⟨founds, sessions⟩ := read
      simp only at founds sessions
      subst sessions
      have known : Progress.Moved root other { progress with session }
          { otherProgress with session } :=
        ⟨same.findings, same.events, same.scanned, rfl⟩
      cases founds with
      | @ok references _ related =>
          subst related
          exact ih (known.add here references)
      | error related =>
          cases related with
          | scan moved =>
              cases policy <;> exact ⟨known, .some (.scan moved)⟩
          | parse moved =>
              cases policy with
              | skip => exact ih (known.skip here.path (.unparsable moved))
              | abort => exact ⟨known, .some (.parse moved)⟩

theorem foldl_skip_moved {paths otherPaths : List String}
    (moved : List.Forall₂ (MovedPath root other) paths otherPaths) {cause : SkipCause}
    (causes : SkipCause.Moved root other cause cause) {progress otherProgress : Progress}
    (same : Progress.Moved root other progress otherProgress) :
    Progress.Moved root other (paths.foldl (fun progress path => progress.skip path cause) progress)
      (otherPaths.foldl (fun progress path => progress.skip path cause) otherProgress) := by
  induction moved generalizing progress otherProgress with
  | nil => exact same
  | cons here further ih => exact ih (same.skip here causes)

/-- Collections that belong together are judged in the same way. -/
theorem judge_moved {collection otherCollection : Collection}
    (same : Collection.Moved files others root other collection otherCollection) (config : Config)
    (environment : Environment) (durationMs otherDurationMs : Nat) :
    List.Forall₂ (Event.Moved root other)
        (judge config files root environment durationMs collection).1
        (judge config others other environment otherDurationMs otherCollection).1 ∧
      Paired (CheckError.Moved root other) (CheckResult.Moved root other)
        (judge config files root environment durationMs collection).2
        (judge config others other environment otherDurationMs otherCollection).2 := by
  have begun : Event.Moved root other (.started root collection.files.length collection.ignored)
      (.started other otherCollection.files.length otherCollection.ignored) := by
    rw [same.sources.length_eq, same.ignored]
    exact .started _ _
  have start : Progress.Moved root other
      ⟨{}, [.started root collection.files.length collection.ignored], 0, .start⟩
      ⟨{}, [.started other otherCollection.files.length otherCollection.ignored], 0, .start⟩ :=
    ⟨⟨rfl, .nil, .nil⟩, .cons begun .nil, rfl, rfl⟩
  have read := readFiles_moved same.sources config.check.effectiveParseErrorPolicy
    (foldl_skip_moved same.oversized (.tooLarge config.scan.effectiveMaxFileSize) start)
  rw [judge, judge]
  generalize readFiles files config.check.effectiveParseErrorPolicy collection.files _ = first
    at read ⊢
  generalize readFiles others config.check.effectiveParseErrorPolicy otherCollection.files _ =
    second at read ⊢
  obtain ⟨progress, failure⟩ := first
  obtain ⟨otherProgress, otherFailure⟩ := second
  obtain ⟨known, ends⟩ := read
  simp only at known ends
  cases ends with
  | some related => exact ⟨known.events, .error related⟩
  | none =>
      have names := known.findings.names
      have skipped := known.findings.skipped.length_eq
      refine ⟨List.rel_append known.events (.cons ?_ .nil), .ok ?_⟩
      · simp only [Findings.finish, names, known.scanned, skipped]
        exact .complete _ _ _ _
      · constructor
        · rfl
        · rfl
        · exact names
        · simp only [Findings.finish, names]
        · exact known.findings.firstSeen
        · exact known.findings.skipped
        · exact known.scanned
        · exact skipped
        · exact same.ignored

end Check

end EnvAudit
