import SourceMetrics.Text.Blank

/-!
# Counting parameters

The parameters of a declaration are separated by commas outside brackets of any sort. A separator
closes a parameter only if something other than blanks stands before it. Brackets are not matched by
sort, and one that closes nothing is ignored.

## Main definitions

* `ParameterScan` — what is known inside a parameter list
* `countParameters` — the number of parameters
-/

namespace SourceMetrics

/-- What is known inside a parameter list. -/
structure ParameterScan where
  depth : Nat := 0
  count : Nat := 0
  /-- Whether the current parameter has any text. -/
  started : Bool := false
  deriving DecidableEq, Repr

namespace ParameterScan

/-- Reads a character. -/
def step (s : ParameterScan) (c : Char) : ParameterScan :=
  if c = '(' || c = '[' || c = '\x7b' || c = '<' then
    { s with depth := s.depth + 1, started := true }
  else if c = ')' || c = ']' || c = '\x7d' || c = '>' then
    { s with depth := s.depth - 1, started := true }
  else if c = ',' && s.depth = 0 then
    { s with count := s.count + s.started.toNat, started := false }
  else if Text.isBlank c then s
  else { s with started := true }

/-- The number of parameters once the list has ended. -/
def total (s : ParameterScan) : Nat := s.count + s.started.toNat

end ParameterScan

/-- The number of parameters in the text between the parentheses of a declaration. -/
def countParameters (cs : List Char) : Nat := (cs.foldl ParameterScan.step {}).total

end SourceMetrics
