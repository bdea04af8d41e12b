import SourceMetrics.Language.Java
import SourceMetrics.Proofs.Analyzer.Cache
import SourceMetrics.Proofs.Registry.Lookup
import SourceMetrics.Proofs.Tally.Histogram

/-!
# The language of a result

A source is analysed in a language that the registry knows, but the result names the language that
the scanner declares. The two are the same if every scanner is registered for the language that it
declares. Nothing demands that: a scanner may be registered for any language, and then its results
name another.

## Main definitions

* `Analyzer.Declares` — a scanner is registered for one language and declares another or the same
* `Analyzer.ReportsRegistered` — results name the registered language

## Main results

* `Analyzer.language_analyzeText` — the language of the result for a text
* `Tally.exists_of_count?_foldl` — a batch counts the languages of its results
* `Analyzer.reportsRegistered_iff` — when results name the registered language
* `Analyzer.language_eq_declared` — results name the declared language
* `Analyzer.language_ne_resolve` — which need not be the registered one
-/

namespace SourceMetrics

namespace Registry

theorem get?_eq_some_iff {r : Registry} {name : String} {s : Scanner} :
    r.get? name = some s ↔ ∃ id, r.resolve name = some id ∧ id ≠ "" ∧
      ∃ registration, r.scanners.get? id = some registration ∧ registration.scanner = s := by
  rw [get?]
  cases r.resolve name with
  | none => simp [scannerOf?]
  | some id => by_cases hid : id = "" <;> simp [scannerOf?, hid]

end Registry

/-! ### Single results -/

theorem FileProblem.succeeded_result (problem : FileProblem) (path : String) :
    (problem.result path).succeeded = false := by
  cases problem with
  | disk e =>
    rw [FileProblem.result]
    split_ifs <;> rfl
  | tooLarge size limit => rfl
  | undetected => rfl

namespace Analyzer

variable {a : Analyzer}

/-- A scanner that declares `language` is registered for `id`, and there is a source that
it can analyse. -/
def Declares (a : Analyzer) (id language : String) : Prop :=
  id ≠ "" ∧ ∃ registration, a.registry.scanners.get? id = some registration ∧
    (∃ source analysis,
      a.scanning registration.scanner a.settings.counting source = .ok analysis) ∧
    registration.scanner.language = language

/-- The scanner of a successful result. -/
theorem exists_of_succeeded_textResult {path language : String} {text : List Char} {size : Nat}
    {p? : Option Prepared} (h : (a.textResult path language text size p?).succeeded = true) :
    ∃ p, p? = some p ∧ (∃ analysis, a.scanning p.scanner p.counting text = .ok analysis) ∧
      (a.textResult path language text size p?).language = some p.scanner.language := by
  cases p? with
  | none => cases h
  | some p =>
    refine ⟨p, rfl, ?_⟩
    simp only [textResult, scan] at h ⊢
    cases hscan : a.scanning p.scanner p.counting text with
    | ok analysis => exact ⟨⟨analysis, rfl⟩, rfl⟩
    | error complaint =>
      rw [hscan] at h
      cases h

/-- The language of the result for a text is the one that the scanner of its language declares. -/
theorem language_analyzeText (ha : a.Faithful) (hr : a.registry.Sound) {path name : String}
    {text : List Char} {size : Nat}
    (h : (a.analyzeText path name text size).1.succeeded = true) :
    ∃ id language, a.registry.resolve name = some id ∧ a.Declares id language ∧
      (a.analyzeText path name text size).1.language = some language := by
  rw [analyzeText_eq] at h ⊢
  obtain ⟨p, hp, hscan, hlanguage⟩ := exists_of_succeeded_textResult h
  rw [fst_prepare ha, hr.bind_resolve_get?] at hp
  obtain ⟨s, hs, rfl⟩ := Option.map_eq_some_iff.mp hp
  obtain ⟨id, hid, hne, registration, hregistration, rfl⟩ := Registry.get?_eq_some_iff.mp hs
  exact ⟨id, _, hid, ⟨hne, registration, hregistration, ⟨text, hscan⟩, rfl⟩, hlanguage⟩

/-- A file that is analysed successfully is analysed as a text in its language. -/
theorem exists_of_succeeded_runFile {disk : Disk} {path : String}
    (h : (a.runFile disk path).1.succeeded = true) :
    ∃ bytes name, a.languageOf? path (Utf8.decode bytes) = some name ∧
      a.runFile disk path = a.analyzeText path name (Utf8.decode bytes) bytes.length := by
  have htime : a.timesOut disk path = false := by
    by_contra hlate
    rw [runFile, if_pos (by simpa using hlate)] at h
    cases h
  have hrun : a.runFile disk path = a.analyzePath disk path := by simp [runFile, htime]
  rw [hrun, analyzePath] at h ⊢
  cases hload : a.load disk path with
  | error problem =>
    rw [hload] at h
    exact absurd h (by simp [FileProblem.succeeded_result])
  | ok bytes =>
    simp only [hload] at h ⊢
    cases hname : a.languageOf? path (Utf8.decode bytes) with
    | none =>
      rw [hname] at h
      cases h
    | some name => exact ⟨bytes, name, hname, rfl⟩

/-- The language of the result for a file is the one that the scanner of its language declares. -/
theorem language_runFile (ha : a.Faithful) (hr : a.registry.Sound) {disk : Disk} {path : String}
    (h : (a.runFile disk path).1.succeeded = true) :
    ∃ bytes name id language, a.languageOf? path (Utf8.decode bytes) = some name ∧
      a.registry.resolve name = some id ∧ a.Declares id language ∧
      (a.runFile disk path).1.language = some language := by
  obtain ⟨bytes, name, hname, hrun⟩ := exists_of_succeeded_runFile h
  rw [hrun] at h ⊢
  obtain ⟨id, language, hid, hdeclares, hlanguage⟩ := language_analyzeText ha hr h
  exact ⟨bytes, name, id, language, hname, hid, hdeclares, hlanguage⟩

/-- The same where the extension decides the language. -/
theorem language_runFile_of_languageFor? (ha : a.Faithful) (hr : a.registry.Sound) {disk : Disk}
    {path id : String} (hsuffix : Path.suffix path ≠ "")
    (hid : a.registry.languageFor? (Path.suffix path) = some id)
    (h : (a.runFile disk path).1.succeeded = true) :
    ∃ language, a.Declares id language ∧
      (a.runFile disk path).1.language = some language := by
  obtain ⟨bytes, name, target, language, hname, htarget, hdeclares, hlanguage⟩ :=
    language_runFile ha hr h
  have hname' : name = id := by
    simpa [languageOf?, hsuffix, hid, eq_comm] using hname
  rw [hname', hr.resolve_eq_self (hr.contains_of_languageFor? hid)] at htarget
  cases htarget
  exact ⟨language, hdeclares, hlanguage⟩

/-- Some source in a declared language is analysed, and its result names what is declared. -/
theorem exists_analyzeCode_of_declares (ha : a.Faithful) (hr : a.registry.Sound)
    {id language : String} (h : a.Declares id language) (path : String) :
    a.registry.resolve id = some id ∧ ∃ code, (a.analyzeCode code id path).1.succeeded = true ∧
      (a.analyzeCode code id path).1.language = some language := by
  obtain ⟨hne, registration, hregistration, ⟨code, analysis, hscan⟩, hlanguage⟩ := h
  have hresolve : a.registry.resolve id = some id :=
    hr.resolve_eq_self (Table.contains_iff.mpr ⟨registration, hregistration⟩)
  have hget : a.registry.get? id = some registration.scanner :=
    Registry.get?_eq_some_iff.mpr ⟨id, hresolve, hne, registration, hregistration, rfl⟩
  refine ⟨hresolve, code, ?_⟩
  rw [analyzeCode, analyzeText_eq, fst_prepare ha, hresolve, Option.bind_some, hget]
  simp [textResult, scan, hscan, FileResult.withRecommendations, FileResult.success,
    FileResult.succeeded, hlanguage]

end Analyzer

/-! ### Batches -/

namespace Tally

theorem language_of_count?_ofResult {r : FileResult} {order : Int} {name : String} {n : Nat}
    (h : (ofResult r order).languages.count? name = some n) :
    r.succeeded = true ∧ r.language = some name := by
  rcases r with ⟨path, language, findings | failure⟩
  · refine ⟨rfl, ?_⟩
    simp only [ofResult, languageOf] at h
    cases language with
    | none => cases h
    | some other =>
      simp only at h
      split at h
      · cases h
      · simp only [Histogram.count?, Histogram.single, Table.lookup_cons_ite] at h
        split at h
        next heq => rw [heq]
        next => cases h
  · cases h

/-- A language that a batch counts is the language of a result. -/
theorem exists_of_count?_foldl {name : String} (results : List FileResult) (order : Nat) (t : Tally)
    {n : Nat}
    (h : ((leavesFrom order results).foldl combine t).languages.count? name = some n) :
    (∃ m, t.languages.count? name = some m) ∨
      ∃ r ∈ results, r.succeeded = true ∧ r.language = some name := by
  induction results generalizing order t with
  | nil => exact .inl ⟨n, h⟩
  | cons r rest ih =>
    rcases ih (order + 1) (t.combine (ofResult r order)) h with ⟨m, hm⟩ | ⟨other, hother, hlanguage⟩
    · have hmerge : Option.merge (· + ·) (t.languages.count? name)
          ((ofResult r order).languages.count? name) = some m := by
        rw [← Histogram.count?_merge]
        exact hm
      cases hr : (ofResult r order).languages.count? name with
      | none => exact .inl ⟨m, by simpa [hr] using hmerge⟩
      | some k => exact .inr ⟨r, List.mem_cons_self, language_of_count?_ofResult hr⟩
    · exact .inr ⟨other, List.mem_cons_of_mem r hother, hlanguage⟩

end Tally

namespace Analyzer

variable {a : Analyzer}

/-- A successful result of a batch is that of a file on its own. -/
theorem exists_runFile_of_mem_results (ha : a.Faithful) {disk : Disk} {cancelAfter : Option Nat}
    {paths : List String} {r : FileResult} (hr : r ∈ (a.runFiles disk cancelAfter paths).results)
    (hsucceeded : r.succeeded = true) : ∃ path, r = (a.runFile disk path).1 := by
  rw [BatchRun.results, runFiles, runsFrom_eq ha, List.map_map] at hr
  obtain ⟨⟨path, position⟩, -, rfl⟩ := List.mem_map.mp hr
  simp only [Function.comp_apply, runAt] at hsucceeded ⊢
  split at hsucceeded
  · cases hsucceeded
  · rename_i hrun
    rw [if_neg hrun]
    exact ⟨path, (fst_runFile ha disk path).symm⟩

theorem exists_declares_of_count? (ha : a.Faithful) (hr : a.registry.Sound) {disk : Disk}
    {cancelAfter : Option Nat} {paths : List String} {name : String} {n : Nat}
    (h : (a.runFiles disk cancelAfter paths).toBatchResult.tally.languages.count? name = some n) :
    ∃ id, a.Declares id name := by
  rcases Tally.exists_of_count?_foldl _ 0 {} h with ⟨m, hm⟩ | ⟨r, hmem, hsucceeded, hlanguage⟩
  · cases hm
  · obtain ⟨path, rfl⟩ := exists_runFile_of_mem_results ha hmem hsucceeded
    obtain ⟨bytes, given, id, language, -, -, hdeclares, hreported⟩ :=
      language_runFile ha hr hsucceeded
    rw [hlanguage] at hreported
    cases hreported
    exact ⟨id, hdeclares⟩

/-! ### The registered language -/

/-- The results of an analyzer name the language that is registered. -/
structure ReportsRegistered (a : Analyzer) : Prop where
  code : ∀ code name path, (a.analyzeCode code name path).1.succeeded = true →
    (a.analyzeCode code name path).1.language = a.registry.resolve name
  file : ∀ disk path id, Path.suffix path ≠ "" →
    a.registry.languageFor? (Path.suffix path) = some id →
    (a.runFile disk path).1.succeeded = true → (a.runFile disk path).1.language = some id
  batch : ∀ disk cancelAfter paths name n,
    (a.runFiles disk cancelAfter paths).toBatchResult.tally.languages.count? name = some n →
    a.registry.scanners.contains name = true

/-- Results name the registered language if and only if every scanner that can succeed is registered
for the language that it declares. -/
theorem reportsRegistered_iff (ha : a.Faithful) (hr : a.registry.Sound) :
    a.ReportsRegistered ↔ ∀ id language, a.Declares id language → language = id := by
  constructor
  · intro h id language hdeclares
    obtain ⟨hresolve, code, hsucceeded, hlanguage⟩ :=
      exists_analyzeCode_of_declares ha hr hdeclares ""
    have hreported := h.code code id "" hsucceeded
    rw [hlanguage, hresolve] at hreported
    exact Option.some.inj hreported
  · intro h
    refine ⟨fun code name path hsucceeded => ?_, fun disk path id hsuffix hid hsucceeded => ?_,
      fun disk cancelAfter paths name n hcount => ?_⟩
    · obtain ⟨id, language, hid, hdeclares, hlanguage⟩ := language_analyzeText ha hr hsucceeded
      rw [analyzeCode, hlanguage, hid, h id language hdeclares]
    · obtain ⟨language, hdeclares, hlanguage⟩ :=
        language_runFile_of_languageFor? ha hr hsuffix hid hsucceeded
      rw [hlanguage, h id language hdeclares]
    · obtain ⟨id, hdeclares⟩ := exists_declares_of_count? ha hr hcount
      rw [h id name hdeclares]
      obtain ⟨-, registration, hregistration, -⟩ := hdeclares
      exact Table.contains_iff.mpr ⟨registration, hregistration⟩

/-- **Results name the declared language.** After any operations on an analyzer that starts with an
empty registry, a successful result names what the scanner of its language declares, and so do the
counts of a batch. That is the registered language if and only if each scanner is registered for the
language that it declares. -/
theorem language_eq_declared (settings : Settings) (detector : Detector) (scanning : Scanning)
    (operations : List Operation) :
    let a := performAll { settings, registry := {}, detector, scanning } operations
    (∀ code name path, (a.analyzeCode code name path).1.succeeded = true →
      ∃ id language, a.registry.resolve name = some id ∧ a.Declares id language ∧
        (a.analyzeCode code name path).1.language = some language) ∧
    (∀ disk path id, Path.suffix path ≠ "" →
      a.registry.languageFor? (Path.suffix path) = some id →
      (a.runFile disk path).1.succeeded = true →
      ∃ language, a.Declares id language ∧
        (a.runFile disk path).1.language = some language) ∧
    (∀ disk cancelAfter paths name n,
      (a.runFiles disk cancelAfter paths).toBatchResult.tally.languages.count? name = some n →
      ∃ id, a.Declares id name) ∧
    (a.ReportsRegistered ↔ ∀ id language, a.Declares id language → language = id) := by
  intro a
  let first : Analyzer := { settings, registry := {}, detector, scanning }
  obtain ⟨hrenewed, hfaithful⟩ := first.performAll_spec operations
  have ha : a.Faithful := hfaithful first.faithful_renewed
  have hregistry : a.registry =
      ({} : Registry).afterAll (operations.filterMap Operation.request?) :=
    congrArg Analyzer.registry hrenewed
  have hr : a.registry.Sound := hregistry ▸ Registry.sound_empty.afterAll _
  exact ⟨fun code name path => language_analyzeText ha hr,
    fun disk path id => language_runFile_of_languageFor? ha hr,
    fun disk cancelAfter paths name n => exists_declares_of_count? ha hr,
    reportsRegistered_iff ha hr⟩

/-- The scanner of another language, registered for a language and its extension. -/
theorem language_eq_declared_groovy :
    let operations : List Operation :=
      [.request (.register "groovy" ⟨"", .scanner Java.scanner⟩ [".groovy"] ["gvy"] [])]
    let detector : Detector := .standard fun _ => []
    let a := performAll { registry := {}, detector } operations
    (a.analyzeCode [] "GVY" "").1.succeeded = true ∧
      ∃ id language, a.registry.resolve "GVY" = some id ∧ a.Declares id language ∧
        (a.analyzeCode [] "GVY" "").1.language = some language := by
  intro operations detector a
  have hsucceeded : (a.analyzeCode [] "GVY" "").1.succeeded = true := by decide +kernel
  exact ⟨hsucceeded, (language_eq_declared {} detector _ operations).1 [] "GVY" "" hsucceeded⟩

/-- **The language of a result need not be the registered one.** -/
theorem language_ne_resolve :
    let a := performAll { registry := {}, detector := .standard fun _ => [] }
      [.request (.register "groovy" ⟨"", .scanner Java.scanner⟩ [".groovy"] [] [])]
    (a.analyzeCode [] "groovy" "").1.succeeded = true ∧
      (a.analyzeCode [] "groovy" "").1.language = some "java" ∧
      a.registry.resolve "groovy" = some "groovy" ∧ ¬ a.ReportsRegistered := by
  intro a
  have hsucceeded : (a.analyzeCode [] "groovy" "").1.succeeded = true := by decide +kernel
  have hlanguage : (a.analyzeCode [] "groovy" "").1.language = some "java" := by decide +kernel
  have hresolve : a.registry.resolve "groovy" = some "groovy" := by decide +kernel
  refine ⟨hsucceeded, hlanguage, hresolve, fun h => ?_⟩
  have hreported := h.code [] "groovy" "" hsucceeded
  rw [hlanguage, hresolve] at hreported
  exact absurd hreported (by decide)

end Analyzer

end SourceMetrics
