/-!
# Classes of characters as runs of code points

A class of characters that no simple rule describes is a table of runs, each given by its first and
last code point. The runs of a table ascend and do not touch, which is what lets a search stop at
the first run that starts beyond the code point sought.

## Main definitions

* `Text.RangeTable` — a table of runs
* `Text.RangeTable.holds` — membership of a code point
-/

namespace SourceMetrics

namespace Text

/-- A set of code points, given by its runs in ascending order. -/
abbrev RangeTable := List (Nat × Nat)

/-- Whether a code point lies in a run of the table. -/
def RangeTable.holds : RangeTable → Nat → Bool
  | [], _ => false
  | (first, last) :: rest, n =>
    if n < first then false else if n ≤ last then true else RangeTable.holds rest n

end Text

end SourceMetrics
