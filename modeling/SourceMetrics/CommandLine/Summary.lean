import SourceMetrics.Tally.Report

/-!
# Summaries

A short text about a batch, for people.

## Main definitions

* `BatchResult.summary` — the text
-/

namespace SourceMetrics

namespace Summary

/-- The line about a measure. -/
def line (title : String) (s : Summary) : String :=
  s!"{title}: avg {s.average.shortest}, max {s.greatest}, total {s.total}"

end Summary

/-- The line about the most complex entity of a kind, if there is one. -/
def Reference.line (title : String) : Option Reference → List String
  | none => []
  | some r =>
    [s!"Most complex {title}: {r.name} ({r.file}:{r.lineStart}) cyclomatic {r.cyclomatic}"]

/-- The line about a file that failed. -/
def FileResult.failureLine? (r : FileResult) : Option String :=
  match r.outcome with
  | .analyzed _ => none
  | .failed failure => some s!"  {r.path}: {failure.kind.label}: {failure.message}"

/-- The lines about files that failed, under a heading. -/
def BatchResult.failureLines (b : BatchResult) : List String :=
  match b.results.filterMap FileResult.failureLine? with
  | [] => []
  | lines => "Errors:" :: lines

/-- The line about languages, if there are any. -/
def Tally.languageLine (t : Tally) : List String :=
  match t.languages.bars with
  | [] => []
  | bars => ["Languages: " ++ ", ".intercalate (bars.map fun bar => s!"{bar.1}={bar.2}")]

/-- A short text about a batch. -/
def BatchResult.summary (b : BatchResult) : String :=
  let t := b.tally
  "\n".intercalate <|
    [s!"Files: {t.analyzed} analyzed, {t.failed} failed ({t.files} total)"] ++ t.languageLine ++
    [s!"Lines: {t.lines}", Summary.line "Cyclomatic" (t.cyclomatic.summary t.analyzed),
     Summary.line "Cognitive" (t.cognitive.summary t.analyzed),
     s!"Functions: {t.functions}, Classes: {t.classes}"] ++
    Reference.line "function" t.topFunction ++ Reference.line "class" t.topClass ++ b.failureLines

end SourceMetrics
