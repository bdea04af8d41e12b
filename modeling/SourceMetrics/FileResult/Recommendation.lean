import SourceMetrics.FileResult.Basic
import SourceMetrics.Number.Decimal
import SourceMetrics.Number.Total
import SourceMetrics.Settings.Thresholds

/-!
# Recommendations

Advice about a file that was analysed: its most complex functions, their average complexity, the
maintainability of the file, deep nesting and long parameter lists. Functions of very high
complexity displace those of high complexity, and at most three functions are named.

## Main definitions

* `FileResult.recommend` — the advice for a result
* `FileResult.withRecommendations` — the result with its advice
-/

namespace SourceMetrics

namespace Recommendation

/-- The cyclomatic complexity of an entity that has a score. -/
def complexity? (e : Entity) : Option Nat := e.declaration.score.map (·.cyclomatic)

/-- The functions whose complexity has a property, with their complexities. -/
def withComplexity (functions : List Entity) (p : Nat → Bool) : List (String × Nat) :=
  functions.filterMap fun e =>
    match complexity? e with
    | some n => if p n then some (e.declaration.name, n) else none
    | none => none

/-- The three most complex, the earlier first among equals. -/
def topThree (found : List (String × Nat)) : List (String × Nat) :=
  (found.mergeSort fun a b => decide (b.2 ≤ a.2)).take 3

/-- Advice about single functions. -/
def aboutFunctions (t : Thresholds) (functions : List Entity) : List String :=
  let veryHigh := withComplexity functions fun n => t.high < (n : Int)
  let high := withComplexity functions fun n => t.medium < (n : Int) && (n : Int) ≤ t.high
  if veryHigh.isEmpty then
    (topThree high).map fun found =>
      s!"Consider refactoring '{found.1}' (complexity: {found.2})"
  else
    (topThree veryHigh).map fun found =>
      s!"Urgent: Refactor '{found.1}' (complexity: {found.2})"

/-- The average complexity of the functions; those without a score count as zero. -/
def average (functions : List Entity) : Number.Binary :=
  .ofRatio (Number.total (functions.filterMap complexity?)) functions.length

/-- Advice about the average complexity. -/
def aboutAverage (t : Thresholds) (functions : List Entity) : List String :=
  if !functions.isEmpty && (average functions).exceeds t.medium then
    [s!"High average complexity ({(average functions).fixed 1}). Consider breaking down functions"]
  else []

/-- Advice about the maintainability of the file. -/
def aboutMaintainability (score : Score) : List String :=
  if score.maintainability < 20 then
    ["Low maintainability index. Code needs significant refactoring"]
  else if score.maintainability < 40 then
    ["Moderate maintainability index. Consider improving code structure"]
  else []

/-- Advice about deep nesting. -/
def aboutNesting (functions : List Entity) : List String :=
  match functions.countP fun e => e.declaration.score.any fun s => 4 < s.nestingDepth with
  | 0 => []
  | n =>
    [s!"{n} function(s) have deep nesting (>4 levels). " ++ "Consider extracting nested logic"]

/-- Advice about long parameter lists. -/
def aboutParameters (functions : List Entity) : List String :=
  match functions.countP fun e => 5 < e.declaration.parameters with
  | 0 => []
  | n =>
    [s!"{n} function(s) take more than 5 parameters. " ++
      "Consider introducing a parameter object"]

end Recommendation

open Recommendation in
/-- The advice for findings. -/
def Findings.recommend (t : Thresholds) (f : Findings) : List String :=
  let functions := Entity.functions f.entities
  aboutFunctions t functions ++ aboutAverage t functions ++ aboutMaintainability f.score ++
    aboutNesting functions ++ aboutParameters functions

namespace FileResult

/-- The advice for a result; there is none for a failure. -/
def recommend (t : Thresholds) (r : FileResult) : List String :=
  match r.outcome with
  | .analyzed findings => findings.recommend t
  | .failed _ => []

/-- The result with its advice. -/
def withRecommendations (t : Thresholds) (r : FileResult) : FileResult :=
  match r.outcome with
  | .analyzed findings =>
    { r with outcome := .analyzed { findings with recommendations := findings.recommend t } }
  | .failed _ => r

end FileResult

end SourceMetrics
