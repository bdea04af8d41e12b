import SourceMetrics.FileResult.Report
import SourceMetrics.Tally.Basic

/-!
# Reports on batches

A report summarises a tally: extremes, average and total of each measure over the files that were
analysed. If there are none, all of these are zero.

## Main definitions

* `Summary`, `Tally.summary` — a measure in a report
* `Tally.report` — the report on a batch
* `BatchResult` — the results of a batch with its tally
-/

namespace SourceMetrics

/-- Extremes, average and total of a measure. -/
structure Summary where
  least : Nat := 0
  greatest : Nat := 0
  average : Number.Binary := .ofNat 0
  total : Nat := 0

/-- A measure in a report. -/
def Summary.toJson (s : Summary) : Json :=
  .obj
    [("min", .nat s.least), ("max", .nat s.greatest), ("avg", .binary s.average),
     ("total", .nat s.total)]

/-- The summary of a spread over a number of files. The average has two decimals. -/
def Spread.summary (s : Spread) (files : Nat) : Summary :=
  if files = 0 then {}
  else
    { least := s.least.getD 0
      greatest := s.greatest.getD 0
      average := (Number.Binary.ofRatio s.total files).roundTo 2
      total := s.total }

/-- The report on a tally. -/
def Tally.report (t : Tally) : Json :=
  .obj
    [("total_files", .nat t.files), ("analyzed_files", .nat t.analyzed),
     ("error_files", .nat t.failed), ("cancelled_files", .nat t.cancelled),
     ("error_kinds", t.failureKinds.toJson), ("languages", t.languages.toJson),
     ("total_lines", .nat t.lines), ("total_size", .int t.size),
     ("cyclomatic", (t.cyclomatic.summary t.analyzed).toJson),
     ("cognitive", (t.cognitive.summary t.analyzed).toJson), ("total_functions", .nat t.functions),
     ("total_classes", .nat t.classes),
     ("most_complex_function", (t.topFunction.map Reference.toJson).getD .null),
     ("most_complex_class", (t.topClass.map Reference.toJson).getD .null)]

/-- The results of a batch, in the order of its files, with their tally. -/
structure BatchResult where
  results : List FileResult
  tally : Tally

/-- The results of a batch with the tally they amount to. -/
def BatchResult.ofResults (results : List FileResult) : BatchResult :=
  ⟨results, .ofResults results⟩

/-- A batch in a report. -/
def BatchResult.toJson (b : BatchResult) : Json :=
  .obj [("summary", b.tally.report), ("files", .arr (b.results.map FileResult.toJson))]

end SourceMetrics
