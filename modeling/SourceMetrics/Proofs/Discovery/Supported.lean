import SourceMetrics.Analyzer.Batch
import SourceMetrics.Language.Java
import SourceMetrics.Proofs.Registry.Lookup

/-!
# What is found can be analysed

Files are found by one question to the registry and analysed by others. A file is found if its
extension has a scanner. Its analysis asks for the language of the extension, what the language
stands for, and which scanner that has. In a registry that was built by requests the answers fit
together, so a file that is found never fails for want of a scanner. The settings of the search and
those of the analysis need not be the same, and it does not matter what the analyzer has kept from
earlier files.

## Main results

* `Folder.selects_of_mem_walk` — a walk finds selected files only
* `Analyzer.failureKind?_analyzeText` — a language with a scanner is supported
* `Analyzer.failureKind?_runFile_of_findFiles` — so is every file that is found
-/

namespace SourceMetrics

/-- The kind of failure of a result that is one. -/
def FileResult.failureKind? (r : FileResult) : Option FailureKind :=
  match r.outcome with
  | .analyzed _ => none
  | .failed failure => some failure.kind

/-! ### What a walk finds -/

theorem FolderEntry.selects_of_mem_keptFiles {f : FileFilter} {above path : String}
    {entries : List FolderEntry} (h : path ∈ keptFiles f above entries) :
    f.selects path = true := by
  obtain ⟨entry, -, hkept⟩ := List.mem_filterMap.mp h
  cases entry with
  | file name file =>
    rw [keptFile?] at hkept
    split at hkept
    next hkeeps =>
      cases hkept
      exact (Bool.and_eq_true _ _ ▸ hkeeps).1
    next => cases hkept
  | folder name file content => cases hkept
  | other name => cases hkept

/-- A walk finds selected files only. -/
theorem Folder.selects_of_mem_walk {f : FileFilter} {pending : List (String × Folder)}
    {paths : List String} (h : walk f pending = .ok paths) {path : String} (hpath : path ∈ paths) :
    f.selects path = true := by
  fun_induction walk f pending generalizing paths with
  | case1 =>
    cases h
    cases hpath
  | case2 above e rest hsystem ih => exact ih h hpath
  | case3 above e rest hsystem => cases h
  | case4 above entries rest ih =>
    cases hrest : walk f (FolderEntry.keptFolders f above entries ++ rest) with
    | error e =>
      rw [hrest] at h
      cases h
    | ok found =>
      rw [hrest] at h
      cases h
      rcases List.mem_append.mp hpath with hhere | hthere
      · exact FolderEntry.selects_of_mem_keptFiles hhere
      · exact ih hrest hthere

theorem Disk.exists_walk_of_findFiles {disk : Disk} {reader : IgnoreReader} {settings : Settings}
    {registry : Registry} {root : String} {paths : List String}
    (h : disk.findFiles reader settings registry root = .ok paths) :
    ∃ ignored, Folder.walk { settings, registry, ignored } [("", disk.folder root)] =
      .ok paths := by
  rw [findFiles] at h
  cases hspec : IgnoreSpec.ofSettings reader settings disk root with
  | error e =>
    rw [hspec] at h
    cases h
  | ok spec =>
    refine ⟨spec.leavesOut, ?_⟩
    simp only [hspec, bind, Except.bind] at h
    cases hwalk : Folder.walk { settings, registry, ignored := spec.leavesOut }
        [("", disk.folder root)] with
    | error e =>
      rw [hwalk] at h
      cases h
    | ok found =>
      rw [hwalk] at h
      cases h
      rfl

/-! ### What an analysis comes to -/

namespace Analyzer

theorem isSome_fst_prepare (a : Analyzer) (language : String) :
    (a.prepare language).1.isSome =
      ((a.registry.resolve language).bind a.registry.get?).isSome := by
  rw [prepare]
  cases a.registry.resolve language with
  | none => rfl
  | some id =>
    cases hget : a.registry.get? id with
    | none => simp [hget]
    | some scanner =>
      simp only [hget, Option.bind_some]
      split <;> rfl

/-- A text in a language that has a scanner is analysed, or the scanner fails. -/
theorem failureKind?_analyzeText {a : Analyzer} {language : String}
    (h : (a.prepare language).1.isSome = true) (path : String) (text : List Char) (size : Nat) :
    (a.analyzeText path language text size).1.failureKind? ≠ some .unsupported := by
  rw [analyzeText]
  rcases hprepare : a.prepare language with ⟨_ | p, next⟩
  · rw [hprepare] at h
    cases h
  · simp only [scan]
    cases a.scanning p.scanner p.counting text with
    | error complaint => simp [SourceProblem.result, FileResult.failureKind?, FileResult.failure]
    | ok analysis =>
      simp [FileResult.failureKind?, FileResult.withRecommendations, FileResult.success]

/-- A file that cannot be loaded fails for another reason than its language. -/
theorem failureKind?_of_load_eq_error {a : Analyzer} {disk : Disk} {path : String}
    {problem : FileProblem} (h : a.load disk path = .error problem) :
    (problem.result path).failureKind? ≠ some .unsupported := by
  cases problem with
  | disk e =>
    rw [FileProblem.result]
    split_ifs <;> simp [FileResult.failureKind?, FileResult.failure]
  | tooLarge size limit => simp [FileProblem.result, FileResult.failureKind?, FileResult.failure]
  | undetected =>
    rw [load, checkSize] at h
    split at h
    next hcheck =>
      cases h
      split at hcheck
      · cases hcheck
      · split_ifs at hcheck; cases hcheck
    next => cases hread : disk.read path <;> rw [hread] at h <;> cases h

/-- A file whose extension has a scanner is supported. -/
theorem failureKind?_analyzePath {a : Analyzer} (ha : a.registry.Sound) {path : String}
    (hsuffix : Path.suffix path ≠ "")
    (hscanner : (a.registry.byExtension? (Path.suffix path)).isSome = true) (disk : Disk) :
    (a.analyzePath disk path).1.failureKind? ≠ some .unsupported := by
  obtain ⟨id, hid⟩ := Registry.exists_languageFor?_of_byExtension? hscanner
  have hlanguage : ∀ text, a.languageOf? path text = some id := by
    intro text
    simp [languageOf?, hsuffix, hid]
  have hprepare : (a.prepare id).1.isSome = true := by
    rw [isSome_fst_prepare, ha.bind_resolve_get?, ha.get?_languageFor? hid]
    exact hscanner
  rw [analyzePath]
  split
  next problem hload => exact failureKind?_of_load_eq_error hload
  next bytes hload =>
    simp only [hlanguage]
    exact failureKind?_analyzeText hprepare path _ _

/-- **What is found can be analysed.** -/
theorem failureKind?_runFile_of_findFiles (history : List Registry.Request) {reader : IgnoreReader}
    {settings : Settings} {disk : Disk} {root : String} {paths : List String}
    (hfound : disk.findFiles reader settings (({} : Registry).afterAll history) root = .ok paths)
    {path : String} (hpath : path ∈ paths) {a : Analyzer}
    (ha : a.registry = ({} : Registry).afterAll history) :
    (a.runFile disk path).1.failureKind? ≠ some .unsupported := by
  obtain ⟨ignored, hwalk⟩ := Disk.exists_walk_of_findFiles hfound
  have hselects := Folder.selects_of_mem_walk hwalk hpath
  simp only [FileFilter.selects, Bool.and_eq_true, bne_iff_ne, ← ha] at hselects
  have hsound : a.registry.Sound := ha ▸ Registry.sound_empty.afterAll history
  simp only [runFile]
  split
  · simp [FileResult.failureKind?, FileResult.failure]
  · exact failureKind?_analyzePath hsound hselects.1.1 hselects.1.2 disk

/-- A file whose language has an alias that is then registered as a language of its
own and removed. -/
theorem failureKind?_runFile_of_findFiles_shadowed :
    let history : List Registry.Request :=
      [.register "Zig" ⟨"", .scanner Java.scanner⟩ ["zig"] ["java"] [],
       .register "JAVA" ⟨"", .scanner Java.scanner⟩ [".java"] [] [], .unregister "Java"]
    let disk : Disk :=
      { stat := fun _ => .ok 0, read := fun _ => .ok [],
        list := fun _ => .ok [⟨"a.ZIG", "r/a.ZIG", false, true⟩], depth := 0 }
    let registry := ({} : Registry).afterAll history
    let a : Analyzer := { registry, detector := .standard fun _ => [] }
    disk.findFiles IgnoreRules.read {} registry "r" = .ok ["r/a.ZIG"] ∧
      (a.runFile disk "r/a.ZIG").1.failureKind? ≠ some .unsupported := by
  intro history disk registry a
  have hfound : disk.findFiles IgnoreRules.read {} registry "r" = .ok ["r/a.ZIG"] := by
    decide +kernel
  exact ⟨hfound, failureKind?_runFile_of_findFiles history hfound List.mem_cons_self rfl⟩

end Analyzer

end SourceMetrics
