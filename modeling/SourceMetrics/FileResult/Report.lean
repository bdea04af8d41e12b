import SourceMetrics.Entity.Report
import SourceMetrics.FileResult.Basic

/-!
# Results in reports

## Main definitions

* `FileResult.toJson` — the result for a file
-/

namespace SourceMetrics

/-- A failure in a report. -/
def Failure.toJson (f : Failure) : Json :=
  .obj [("kind", .str f.kind.label), ("message", .str f.message)]

/-- The result for a file in a report: a failure, or the scores with all functions and classes. -/
def FileResult.toJson (r : FileResult) : Json :=
  match r.outcome with
  | .failed failure =>
    .obj
      [("file", .str r.path), ("language", .optionalText r.language), ("error", failure.toJson)]
  | .analyzed findings =>
    .obj
      [("file", .str r.path), ("language", .optionalText r.language), ("size", .int r.size),
       ("lines", .nat r.lines), ("complexity", findings.score.toJson),
       ("functions", .arr (r.functions.map Entity.toJson)),
       ("classes", .arr (r.classes.map Entity.toJson)), ("warnings", .texts findings.warnings),
       ("recommendations", .texts findings.recommendations)]

end SourceMetrics
