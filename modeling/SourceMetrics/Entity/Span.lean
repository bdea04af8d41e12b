import SourceMetrics.Entity.Basic

/-!
# The text of a declaration

The text of a declaration is cut out of the lines of its source: the last line ends at the last
column, and on the first line spaces stand for what comes before the first column, so that the
columns of the text stay those of the source. Positions that are negative count from the end, and
positions beyond the end are those of the end.

## Main definitions

* `slice` — a stretch of a list between two positions
* `Declaration.spanText` — the text of a declaration
-/

namespace SourceMetrics

/-- The position that an integer denotes in a list of `length` members. -/
def sliceBound (length : Nat) (i : Int) : Nat :=
  if i < 0 then (length + i).toNat else min i.toNat length

/-- The members from position `start` up to, not including, position `stop`. -/
def slice {α : Type} (start stop : Int) (xs : List α) : List α :=
  (xs.take (sliceBound xs.length stop)).drop (sliceBound xs.length start)

/-- The members from position `start` on. -/
def sliceFrom {α : Type} (start : Int) (xs : List α) : List α :=
  xs.drop (sliceBound xs.length start)

/-- The members before position `stop`. -/
def sliceTo {α : Type} (stop : Int) (xs : List α) : List α :=
  xs.take (sliceBound xs.length stop)

/-- Lines joined by line feeds. -/
def joinLines : List (List Char) → List Char
  | [] => []
  | [line] => line
  | line :: rest => line ++ '\n' :: joinLines rest

/-- Changes the last member of a list. -/
def mapLast {α : Type} (f : α → α) : List α → List α
  | [] => []
  | [x] => [f x]
  | x :: rest => x :: mapLast f rest

/-- Changes the first member of a list. -/
def mapFirst {α : Type} (f : α → α) : List α → List α
  | [] => []
  | x :: rest => f x :: rest

namespace Declaration

/-- The last line of a declaration, cut at its last column. -/
def cutLast (d : Declaration) (line : List Char) : List Char :=
  match d.columnEnd with
  | some column => sliceTo column line
  | none => line

/-- The first line of a declaration, with spaces before its first column. -/
def padFirst (d : Declaration) (line : List Char) : List Char :=
  List.replicate d.columnStart.toNat ' ' ++ sliceFrom d.columnStart line

/-- The text of a declaration, cut out of the lines of its source. -/
def spanText (d : Declaration) (lines : List (List Char)) : List Char :=
  joinLines (mapFirst d.padFirst (mapLast d.cutLast (slice (d.lineStart - 1) d.lineEnd lines)))

end Declaration

end SourceMetrics
