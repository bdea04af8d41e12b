import SourceMetrics.Score.Basic
import SourceMetrics.Score.Cyclomatic
import SourceMetrics.Score.Cognitive
import SourceMetrics.Score.Nesting
import SourceMetrics.Score.Maintainability

/-!
# Measuring a stretch of text

## Main definitions

* `measure` — the score of a masked text with a number of lines
-/

namespace SourceMetrics

/-- The score of a masked text that counts as `lines` lines of code and whose own braces account for
`base` levels of nesting. A blank text counts as no lines. -/
def measure (rules : CountingRules) (cs : List Char) (lines base : Int) : Score :=
  { cyclomatic := cyclomatic rules cs
    cognitive := cognitive cs
    nestingDepth := nestingDepth base cs
    maintainability :=
      maintainabilityIndex (cyclomatic rules cs) (if Text.allBlank cs then 0 else lines) }

end SourceMetrics
