/-!
# Risk thresholds

Three thresholds divide cyclomatic complexity into four levels of risk. They are positive and do not
decrease, which is checked when they are set.

## Main definitions

* `Thresholds`, `Thresholds.check` — thresholds and their condition
* `Thresholds.classify` — the level of a complexity
-/

namespace SourceMetrics

/-- The upper bounds of low, medium and high complexity. -/
structure Thresholds where
  low : Int := 5
  medium : Int := 10
  high : Int := 20
  deriving DecidableEq, Repr

namespace Thresholds

/-- Why three numbers are no thresholds. -/
inductive Fault where
  | notPositive
  | notOrdered (given : Thresholds)
  deriving DecidableEq, Repr

/-- The message of a fault. -/
def Fault.message : Fault → String
  | notPositive => "Low threshold must be at least 1"
  | notOrdered t =>
    s!"Thresholds must be ordered low <= medium <= high, got {t.low}/{t.medium}/{t.high}"

/-- The thresholds, if they are positive and do not decrease. -/
def check (t : Thresholds) : Except Fault Thresholds :=
  if t.low < 1 then .error .notPositive
  else if t.low ≤ t.medium && t.medium ≤ t.high then .ok t
  else .error (.notOrdered t)

/-- The level of a complexity. -/
def classify (t : Thresholds) (complexity : Int) : String :=
  if complexity ≤ t.low then "low"
  else if complexity ≤ t.medium then "medium"
  else if complexity ≤ t.high then "high"
  else "very-high"

end Thresholds

end SourceMetrics
