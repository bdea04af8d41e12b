import SourceMetrics.FileResult.Basic
import SourceMetrics.Tally.Histogram
import SourceMetrics.Tally.Reference

/-!
# Tallies

A tally is what a number of files amount to: how many were analysed and how many failed, totals and
extremes of their scores, and their most complex entities. Every file has a tally of its own, and
two tallies can be put together, so a batch may be tallied in any grouping.

## Main definitions

* `Spread`, `Tally` — totals and extremes
* `Tally.ofResult` — the tally of a single file
* `Tally.combine`, `Tally.ofResults` — tallies of several files
-/

namespace SourceMetrics

/-- The extremes and the total of a measure. -/
structure Spread where
  least : Option Nat := none
  greatest : Option Nat := none
  total : Nat := 0
  deriving DecidableEq, Repr

namespace Spread

/-- The spread of a single value. -/
def single (n : Nat) : Spread := ⟨some n, some n, n⟩

/-- Joins two optional values by an operation. -/
def merge (op : Nat → Nat → Nat) : Option Nat → Option Nat → Option Nat
  | none, b => b
  | some a, none => some a
  | some a, some b => some (op a b)

/-- The spread of both. -/
def combine (a b : Spread) : Spread :=
  ⟨merge min a.least b.least, merge max a.greatest b.greatest, a.total + b.total⟩

end Spread

/-- What a number of files amount to. -/
structure Tally where
  files : Nat := 0
  analyzed : Nat := 0
  failed : Nat := 0
  cancelled : Nat := 0
  /-- How often each kind of failure occurred. -/
  failureKinds : Histogram := {}
  /-- How many analysed files there are of each language. -/
  languages : Histogram := {}
  lines : Nat := 0
  size : Int := 0
  cyclomatic : Spread := {}
  cognitive : Spread := {}
  functions : Nat := 0
  classes : Nat := 0
  topFunction : Option Reference := none
  topClass : Option Reference := none
  deriving DecidableEq, Repr

namespace Tally

/-- The histogram of the language of a file, if it has one. -/
def languageOf : Option String → Histogram
  | none => {}
  | some name => if name = "" then {} else .single name

/-- The tally of the result at a position of a batch. -/
def ofResult (r : FileResult) (order : Int) : Tally :=
  match r.outcome with
  | .failed failure =>
    { files := 1
      failed := 1
      cancelled := if failure.kind = .cancelled then 1 else 0
      failureKinds := .single failure.kind.label }
  | .analyzed findings =>
    { files := 1
      analyzed := 1
      languages := languageOf r.language
      lines := r.lines
      size := r.size
      cyclomatic := .single findings.score.cyclomatic
      cognitive := .single findings.score.cognitive
      functions := r.functions.length
      classes := r.classes.length
      topFunction := Reference.best r.path order r.functions
      topClass := Reference.best r.path order r.classes }

/-- The tally of the files of both. -/
def combine (a b : Tally) : Tally :=
  { files := a.files + b.files
    analyzed := a.analyzed + b.analyzed
    failed := a.failed + b.failed
    cancelled := a.cancelled + b.cancelled
    failureKinds := a.failureKinds.merge b.failureKinds
    languages := a.languages.merge b.languages
    lines := a.lines + b.lines
    size := a.size + b.size
    cyclomatic := a.cyclomatic.combine b.cyclomatic
    cognitive := a.cognitive.combine b.cognitive
    functions := a.functions + b.functions
    classes := a.classes + b.classes
    topFunction := Reference.pick a.topFunction b.topFunction
    topClass := Reference.pick a.topClass b.topClass }

/-- The tallies of the results of a batch, where the first has the given position. -/
def leavesFrom (order : Nat) : List FileResult → List Tally
  | [] => []
  | r :: rest => ofResult r order :: leavesFrom (order + 1) rest

/-- The tally of a batch. -/
def ofResults (results : List FileResult) : Tally := (leavesFrom 0 results).foldl combine {}

end Tally

end SourceMetrics
