import SourceMetrics.Detection.Detector
import SourceMetrics.FileResult.Recommendation
import SourceMetrics.Registry.Basic
import SourceMetrics.Settings.Basic
import SourceMetrics.Text.Utf8

/-!
# Analyzers

An analyzer holds settings, a registry of scanners and a detector of languages. It prepares the
scanner of a language once and keeps it, under the language and the scanner, so that a language that
gets a new scanner is prepared anew. What is kept does not show in any result.

## What is assumed of scanners

What a scanner makes of a source depends on the scanner, the counting rules and the source, and on
nothing else. It may be any function of them and may fail; `Scanner.analyze` is the one for scanners
that go by a dialect. To make a scanner ready never fails.

## Main definitions

* `Prepared` — a scanner with the counting rules of the settings
* `Analyzer`, `Analyzer.prepare` — the analyzer and the scanners it keeps
* `Analyzer.analyzeCode` — the analysis of a text
-/

namespace SourceMetrics

/-- A scanner that is ready for use. -/
structure Prepared where
  scanner : Scanner
  counting : CountingRules
  deriving DecidableEq, Repr

/-- What analyses sources. -/
structure Analyzer where
  settings : Settings := {}
  registry : Registry
  detector : Detector
  /-- What the scanners make of sources. -/
  scanning : Scanning := Scanner.analyze
  /-- The scanners that were prepared, by language and scanner. -/
  prepared : List ((String × Scanner) × Prepared) := []

/-- Why there is no analysis of a source. -/
inductive SourceProblem where
  /-- No scanner is registered for the language. -/
  | unregistered (language : String)
  /-- The scanner for the language complains. -/
  | scan (language complaint : String)
  deriving DecidableEq, Repr

/-- The failure that a problem amounts to. -/
def SourceProblem.result (path : String) : SourceProblem → FileResult
  | unregistered language =>
    .failure path .unsupported s!"No scanner registered for language: {language}" (some language)
  | scan language complaint =>
    .failure path .scanFailure s!"Scan failed: {complaint}" (some language)

namespace Analyzer

/-- The scanner of a language or alias, made ready if it was not before. That this succeeds is an
assumption on scanners. -/
def prepare (a : Analyzer) (language : String) : Option Prepared × Analyzer :=
  match a.registry.resolve language with
  | none => (none, a)
  | some id =>
    match a.registry.get? id with
    | none => (none, a)
    | some scanner =>
      match a.prepared.lookup (id, scanner) with
      | some found => (some found, a)
      | none =>
        let fresh : Prepared := ⟨scanner, a.settings.counting⟩
        (some fresh, { a with prepared := ((id, scanner), fresh) :: a.prepared })

/-- The result for a source that a scanner analyses. -/
def scan (a : Analyzer) (p : Prepared) (source : SourceUnit) : Except SourceProblem FileResult :=
  match a.scanning p.scanner p.counting source.text with
  | .error complaint => .error (.scan p.scanner.language complaint)
  | .ok analysis =>
    .ok <| FileResult.withRecommendations a.settings.thresholds <| .success
      { source, entities := analysis.entities, score := analysis.score,
        warnings := analysis.warnings }

/-- The result for a text of the given size in a language or alias. -/
def analyzeText (a : Analyzer) (path language : String) (text : List Char) (size : Nat) :
    FileResult × Analyzer :=
  match a.prepare language with
  | (none, next) => ((SourceProblem.unregistered language).result path, next)
  | (some p, next) =>
    match a.scan p { path, language := some p.scanner.language, text, size } with
    | .error problem => (problem.result path, next)
    | .ok result => (result, next)

/-- The result for a text in a language or alias. -/
def analyzeCode (a : Analyzer) (code : List Char) (language path : String) :
    FileResult × Analyzer :=
  a.analyzeText path language code (Utf8.size code)

end Analyzer

end SourceMetrics
