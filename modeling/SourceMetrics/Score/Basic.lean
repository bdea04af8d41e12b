/-!
# Scores

The score of a function, a class or a file has four parts: cyclomatic complexity, cognitive
complexity, depth of brace nesting, and a maintainability index from 0 to 100, which a letter grade
sums up.

## Main definitions

* `Grade`, `Grade.ofIndex` — letter grades
* `Score` — the four parts
* `Score.ofParts` — a score from integers, refused outside the range of a part
-/

namespace SourceMetrics

/-- Letter grades of maintainability. -/
inductive Grade where
  | a
  | b
  | c
  | d
  | f
  deriving DecidableEq, Repr

namespace Grade

/-- The letter of a grade. -/
def letter : Grade → String
  | a => "A"
  | b => "B"
  | c => "C"
  | d => "D"
  | f => "F"

/-- The grade of a maintainability index: one letter for every twenty points. -/
def ofIndex (index : Int) : Grade :=
  if 80 ≤ index then a
  else if 60 ≤ index then b
  else if 40 ≤ index then c
  else if 20 ≤ index then d
  else f

end Grade

/-- The complexity of a piece of source text. -/
structure Score where
  cyclomatic : Nat := 1
  cognitive : Nat := 0
  nestingDepth : Nat := 0
  maintainability : Nat := 100
  deriving DecidableEq, Repr

namespace Score

/-- The letter grade of a score. -/
def grade (s : Score) : Grade := .ofIndex s.maintainability

/-- Why four integers are no score. -/
inductive Fault where
  | cyclomatic (value : Int)
  | cognitive (value : Int)
  | nestingDepth (value : Int)
  | maintainability (value : Int)
  deriving DecidableEq, Repr

/-- The message of a fault. -/
def Fault.message : Fault → String
  | cyclomatic n => s!"Cyclomatic complexity cannot be below 1, got {n}"
  | cognitive n => s!"Cognitive complexity cannot be negative, got {n}"
  | nestingDepth n => s!"Nesting depth cannot be negative, got {n}"
  | maintainability n => s!"Maintainability index must be within 0-100, got {n}"

/-- The score with the given parts; the first part out of its range is reported. -/
def ofParts (cyclomatic cognitive nestingDepth maintainability : Int) : Except Fault Score :=
  if cyclomatic < 1 then .error (.cyclomatic cyclomatic)
  else if cognitive < 0 then .error (.cognitive cognitive)
  else if nestingDepth < 0 then .error (.nestingDepth nestingDepth)
  else if maintainability < 0 || 100 < maintainability then
    .error (.maintainability maintainability)
  else
    .ok
      { cyclomatic := cyclomatic.toNat
        cognitive := cognitive.toNat
        nestingDepth := nestingDepth.toNat
        maintainability := maintainability.toNat }

end Score

end SourceMetrics
