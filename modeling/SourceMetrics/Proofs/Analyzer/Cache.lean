import Mathlib.Data.List.Induction
import SourceMetrics.Analyzer.Batch
import SourceMetrics.Proofs.Registry.History

/-!
# Kept scanners do not show

An analyzer keeps the scanners that it prepared, while the registry it looks them up in goes on
changing: languages get other scanners, go and come back, and aliases move from one to another.
Still no result tells what was kept. A scanner is kept under the very scanner it was prepared from,
so what is found is what would be prepared anew, whatever has become of the registry in between.

The results of an analyzer are compared with those of the analyzer `renewed`, which has the same
settings and the same registry and has kept nothing.

## Main definitions

* `Analyzer.Operation`, `Analyzer.perform` — what is done with an analyzer and its registry
* `Analyzer.renewed` — the analyzer with nothing kept
* `Analyzer.Faithful` — what is kept is what would be prepared

## Main results

* `Analyzer.fst_prepare` — the scanner that is used for a language
* `Analyzer.Faithful.fst_perform` — the result of an operation
* `Analyzer.perform_eq_perform_renewed` — kept scanners do not show
-/

namespace SourceMetrics

namespace Analyzer

/-! ### Operations -/

/-- Something that is done with an analyzer or with its registry. -/
inductive Operation where
  | request (change : Registry.Request)
  | code (code : List Char) (language path : String)
  /-- The analysis of a file without a time limit. -/
  | path (disk : Disk) (path : String)
  | file (disk : Disk) (path : String)

/-- The request that an operation makes to the registry. -/
def Operation.request? : Operation → Option Registry.Request
  | .request change => some change
  | .code _ _ _ => none
  | .path _ _ => none
  | .file _ _ => none

/-- The analyzer with another registry. -/
def withRegistry (a : Analyzer) (registry : Registry) : Analyzer := { a with registry }

/-- The result of an operation, if it is an analysis, and the analyzer after it. -/
def perform (a : Analyzer) : Operation → Option FileResult × Analyzer
  | .request change => (none, a.withRegistry (a.registry.after change))
  | .code code language path => (a.analyzeCode code language path).map some id
  | .path disk path => (a.analyzePath disk path).map some id
  | .file disk path => (a.runFile disk path).map some id

/-- The analyzer after operations, oldest first. -/
def performAll (a : Analyzer) (operations : List Operation) : Analyzer :=
  operations.foldl (fun a operation => (a.perform operation).2) a

theorem performAll_concat (a : Analyzer) (operations : List Operation) (operation : Operation) :
    a.performAll (operations ++ [operation]) = ((a.performAll operations).perform operation).2 := by
  simp [performAll]

/-! ### What is kept -/

/-- The analyzer with nothing kept. -/
def renewed (a : Analyzer) : Analyzer := { a with prepared := [] }

/-- An analyzer that has kept scanners as it would prepare them. -/
def Faithful (a : Analyzer) : Prop :=
  ∀ entry ∈ a.prepared, entry.2 = ⟨entry.1.2, a.settings.counting⟩

theorem faithful_renewed (a : Analyzer) : a.renewed.Faithful := by
  intro entry hentry
  cases hentry

/-- An analyzer that differs from `a` at most in what it has kept, and that is faithful
if `a` is. -/
structure Continues (a next : Analyzer) : Prop where
  renewed_eq : next.renewed = a.renewed
  faithful : a.Faithful → next.Faithful

theorem Continues.refl (a : Analyzer) : a.Continues a := ⟨rfl, id⟩

theorem Continues.trans {a next last : Analyzer} (h : a.Continues next) (h' : next.Continues last) :
    a.Continues last :=
  ⟨h'.renewed_eq.trans h.renewed_eq, h'.faithful ∘ h.faithful⟩

theorem Continues.settings_eq {a next : Analyzer} (h : a.Continues next) :
    next.settings = a.settings := by
  show next.renewed.settings = a.renewed.settings
  rw [h.renewed_eq]

/-- **The scanner that is used for a language** is the registered one with the settings' counting
rules, whether it was kept or not. -/
theorem fst_prepare {a : Analyzer} (ha : a.Faithful) (language : String) :
    (a.prepare language).1 =
      ((a.registry.resolve language).bind a.registry.get?).map (⟨·, a.settings.counting⟩) := by
  rw [prepare]
  cases a.registry.resolve language with
  | none => rfl
  | some id =>
    cases hget : a.registry.get? id with
    | none => simp [hget]
    | some scanner =>
      simp only [hget, Option.bind_some, Option.map_some]
      cases hkept : a.prepared.lookup (id, scanner) with
      | none => rfl
      | some found =>
        obtain ⟨front, back, hsplit, -⟩ := List.lookup_eq_some_iff.mp hkept
        have hmem : ((id, scanner), found) ∈ a.prepared := by simp [hsplit]
        exact congrArg some (ha _ hmem)

theorem continues_prepare (a : Analyzer) (language : String) :
    a.Continues (a.prepare language).2 := by
  rw [prepare]
  split
  · exact Continues.refl a
  · split
    · exact Continues.refl a
    · split
      · exact Continues.refl a
      · refine ⟨rfl, fun ha entry hentry => ?_⟩
        rcases List.mem_cons.mp hentry with rfl | hkept
        · rfl
        · exact ha entry hkept

/-! ### Results

A result depends on an analyzer through its settings, its registry, its detector, the scanner that
it uses and what scanners make of sources, and through nothing else. -/

/-- The result for a text, from the scanner that is used for its language. -/
def textResult (a : Analyzer) (path language : String) (text : List Char) (size : Nat) :
    Option Prepared → FileResult
  | none => (SourceProblem.unregistered language).result path
  | some p =>
    match a.scan p { path, language := some p.scanner.language, text, size } with
    | .error problem => problem.result path
    | .ok result => result

theorem analyzeText_eq (a : Analyzer) (path language : String) (text : List Char) (size : Nat) :
    a.analyzeText path language text size =
      (a.textResult path language text size (a.prepare language).1, (a.prepare language).2) := by
  rw [analyzeText]
  rcases a.prepare language with ⟨_ | p, next⟩
  · rfl
  · cases hscan : a.scan p { path, language := some p.scanner.language, text, size } <;>
      simp only [textResult, hscan]

theorem fst_analyzeText {a : Analyzer} (ha : a.Faithful) (path language : String)
    (text : List Char) (size : Nat) :
    (a.analyzeText path language text size).1 =
      (a.renewed.analyzeText path language text size).1 := by
  rw [analyzeText_eq, analyzeText_eq, fst_prepare ha, fst_prepare a.faithful_renewed]
  rfl

theorem continues_analyzeText (a : Analyzer) (path language : String) (text : List Char)
    (size : Nat) : a.Continues (a.analyzeText path language text size).2 := by
  rw [analyzeText_eq]
  exact a.continues_prepare language

theorem fst_analyzePath {a : Analyzer} (ha : a.Faithful) (disk : Disk) (path : String) :
    (a.analyzePath disk path).1 = (a.renewed.analyzePath disk path).1 := by
  have hload : a.renewed.load disk path = a.load disk path := rfl
  have hlanguage : ∀ text, a.renewed.languageOf? path text = a.languageOf? path text := fun _ => rfl
  rw [analyzePath, analyzePath, hload]
  cases a.load disk path with
  | error problem => rfl
  | ok bytes =>
    simp only [hlanguage]
    cases a.languageOf? path (Utf8.decode bytes) with
    | none => rfl
    | some language => exact fst_analyzeText ha path language _ _

theorem continues_analyzePath (a : Analyzer) (disk : Disk) (path : String) :
    a.Continues (a.analyzePath disk path).2 := by
  rw [analyzePath]
  split
  · exact Continues.refl a
  · simp only
    split
    · exact Continues.refl a
    · exact a.continues_analyzeText path _ _ _

theorem fst_runFile {a : Analyzer} (ha : a.Faithful) (disk : Disk) (path : String) :
    (a.runFile disk path).1 = (a.renewed.runFile disk path).1 := by
  have htime : a.renewed.timesOut disk path = a.timesOut disk path := rfl
  simp only [runFile, htime]
  split
  · rfl
  · exact fst_analyzePath ha disk path

theorem snd_runFile (a : Analyzer) (disk : Disk) (path : String) :
    (a.runFile disk path).2 = (a.analyzePath disk path).2 := by
  simp only [runFile]
  split <;> rfl

theorem continues_runFile (a : Analyzer) (disk : Disk) (path : String) :
    a.Continues (a.runFile disk path).2 := by
  rw [snd_runFile]
  exact a.continues_analyzePath disk path

/-! ### Runs -/

theorem Faithful.fst_perform {a : Analyzer} (ha : a.Faithful) (operation : Operation) :
    (a.perform operation).1 = (a.renewed.perform operation).1 := by
  cases operation with
  | request change => rfl
  | code code language path => exact congrArg some (fst_analyzeText ha path language code _)
  | path disk path => exact congrArg some (fst_analyzePath ha disk path)
  | file disk path => exact congrArg some (fst_runFile ha disk path)

/-- One operation: an analysis changes nothing but what is kept, a request changes the registry. -/
theorem snd_perform (a : Analyzer) (operation : Operation) :
    (a.perform operation).2.renewed =
        a.renewed.withRegistry (a.registry.afterAll operation.request?.toList) ∧
      (a.Faithful → (a.perform operation).2.Faithful) := by
  have hanalysis : ∀ {next : Analyzer}, a.Continues next →
      next.renewed = a.renewed.withRegistry (a.registry.afterAll []) ∧
        (a.Faithful → next.Faithful) := fun h => ⟨h.renewed_eq, h.faithful⟩
  cases operation with
  | request change => exact ⟨rfl, id⟩
  | code code language path => exact hanalysis (a.continues_analyzeText path language code _)
  | path disk path => exact hanalysis (a.continues_analyzePath disk path)
  | file disk path => exact hanalysis (a.continues_runFile disk path)

/-- Operations, one after another: what an analyzer keeps stays faithful, and the requests among
them are the history of its registry. -/
theorem performAll_spec (a : Analyzer) (operations : List Operation) :
    (a.performAll operations).renewed =
        a.renewed.withRegistry (a.registry.afterAll (operations.filterMap Operation.request?)) ∧
      (a.Faithful → (a.performAll operations).Faithful) := by
  induction operations using List.reverseRecOn with
  | nil => exact ⟨rfl, id⟩
  | append_singleton earlier operation ih =>
    obtain ⟨hrenewed, hfaithful⟩ := (a.performAll earlier).snd_perform operation
    rw [performAll_concat]
    refine ⟨?_, fun ha => hfaithful (ih.2 ha)⟩
    have hregistry : (a.performAll earlier).registry =
        a.registry.afterAll (earlier.filterMap Operation.request?) :=
      congrArg Analyzer.registry ih.1
    have hlast : [operation].filterMap Operation.request? = operation.request?.toList := by
      cases operation <;> rfl
    rw [hrenewed, ih.1, hregistry, List.filterMap_append, hlast, Registry.afterAll_append]
    rfl

/-- The run of a file in a batch, if its position is reached before the batch is cancelled. -/
def runAt (a : Analyzer) (disk : Disk) (cancelAfter : Option Nat) (path : String) (position : Nat) :
    FileRun :=
  if isCancelled cancelAfter (a.doneBefore position) then .cancelled path
  else (a.renewed.run disk path).1

theorem Continues.runAt_eq {a next : Analyzer} (h : a.Continues next) (disk : Disk)
    (cancelAfter : Option Nat) : next.runAt disk cancelAfter = a.runAt disk cancelAfter := by
  funext path position
  rw [runAt, runAt, doneBefore, doneBefore, h.settings_eq, h.renewed_eq]

theorem continues_run (a : Analyzer) (disk : Disk) (path : String) :
    a.Continues (a.run disk path).2 :=
  a.continues_runFile disk path

theorem fst_run {a : Analyzer} (ha : a.Faithful) (disk : Disk) (path : String) :
    (a.run disk path).1 = (a.renewed.run disk path).1 := by
  rw [run, run, fst_runFile ha]
  rfl

/-- The runs of a batch are those of its files on their own. -/
theorem runsFrom_eq {a : Analyzer} (ha : a.Faithful) (disk : Disk) (cancelAfter : Option Nat)
    (earlier : Nat) (paths : List String) :
    a.runsFrom disk cancelAfter earlier paths =
      (paths.zipIdx earlier).map fun entry => a.runAt disk cancelAfter entry.1 entry.2 := by
  induction paths generalizing a earlier with
  | nil => rfl
  | cons path rest ih =>
    rw [runsFrom, List.zipIdx_cons, List.map_cons, runAt]
    split
    · rw [ih ha]
    · -- the analyzer that goes on differs from `a` in what it has kept, which no run depends on
      have hnext := a.continues_run disk path
      simp only [ih (hnext.faithful ha), hnext.runAt_eq, fst_run ha]

theorem results_runFiles {a : Analyzer} (ha : a.Faithful) (disk : Disk) (paths : List String) :
    (a.runFiles disk none paths).results =
      paths.map fun path => (a.renewed.runFile disk path).1 := by
  calc (a.runFiles disk none paths).results
      = (paths.zipIdx.map Prod.fst).map fun path => (a.renewed.runFile disk path).1 := by
        rw [BatchRun.results, runFiles, runsFrom_eq ha, List.map_map, List.map_map]
        rfl
    _ = paths.map fun path => (a.renewed.runFile disk path).1 := by rw [List.zipIdx_map_fst]

/-- **Kept scanners do not show.** After any operations on a new analyzer and its registry, every
result is that of an analyzer that is built at that time, with the same settings and the registry as
it is then; and the files of a batch have the results that they have on their own. -/
theorem perform_eq_perform_renewed (settings : Settings) (registry : Registry) (detector : Detector)
    (scanning : Scanning) (operations : List Operation) :
    let used := performAll { settings, registry, detector, scanning } operations
    let current := registry.afterAll (operations.filterMap Operation.request?)
    let new : Analyzer := { settings, registry := current, detector, scanning }
    (∀ operation, (used.perform operation).1 = (new.perform operation).1) ∧
      ∀ disk paths, (used.runFiles disk none paths).results =
        paths.map fun path => (new.runFile disk path).1 := by
  intro used current new
  let first : Analyzer := { settings, registry, detector, scanning }
  obtain ⟨hrenewed, hfaithful⟩ := first.performAll_spec operations
  have hused : used.Faithful := hfaithful first.faithful_renewed
  have hnew : used.renewed = new := hrenewed
  rw [← hnew]
  exact ⟨hused.fst_perform, results_runFiles hused⟩

end Analyzer

end SourceMetrics
