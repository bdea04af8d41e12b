import SourceMetrics.Entity.Basic
import SourceMetrics.Text.Line

/-!
# Results for single files

The analysis of a file either succeeds, with entities and scores, or fails for one of a few reasons.
A failure carries no findings, so the two are the two forms of an outcome.

## Main definitions

* `FailureKind`, `Failure` — why a file could not be analysed
* `Findings` — what was found in a file
* `FileResult` — the outcome for a path
* `FileResult.assemble` — a result from parts that may contradict each other
-/

namespace SourceMetrics

/-- Why a file could not be analysed. -/
inductive FailureKind where
  | notFound
  | unreadable
  | unsupported
  | tooLarge
  | scanFailure
  | timeout
  | cancelled
  deriving DecidableEq, Repr

namespace FailureKind

/-- The name of a kind in reports. -/
def label : FailureKind → String
  | notFound => "not_found"
  | unreadable => "unreadable"
  | unsupported => "unsupported"
  | tooLarge => "too_large"
  | scanFailure => "scan_failure"
  | timeout => "timeout"
  | cancelled => "cancelled"

/-- All kinds. -/
def all : List FailureKind :=
  [notFound, unreadable, unsupported, tooLarge, scanFailure, timeout, cancelled]

/-- The kind of a name. -/
def ofLabel? (name : String) : Option FailureKind := all.find? fun kind => kind.label == name

end FailureKind

/-- A failure with its explanation. -/
structure Failure where
  kind : FailureKind
  message : String
  deriving DecidableEq, Repr

/-- The content of a file. -/
structure SourceUnit where
  path : String
  language : Option String
  text : List Char
  /-- The number of bytes. -/
  size : Int
  deriving DecidableEq, Repr

/-- The number of lines of a source. -/
def SourceUnit.lineCount (s : SourceUnit) : Nat := (Text.lines s.text).length

/-- What was found in a file. -/
structure Findings where
  source : SourceUnit
  entities : List Entity := []
  score : Score
  warnings : List String := []
  recommendations : List String := []

/-- Success with findings, or failure. -/
inductive Outcome where
  | analyzed (findings : Findings)
  | failed (failure : Failure)

/-- The outcome of the analysis of a file. -/
structure FileResult where
  path : String
  language : Option String
  outcome : Outcome

namespace FileResult

/-- A successful result for a source. -/
def success (findings : Findings) : FileResult :=
  ⟨findings.source.path, findings.source.language, .analyzed findings⟩

/-- A failed result for a path. -/
def failure (path : String) (kind : FailureKind) (message : String)
    (language : Option String) : FileResult :=
  ⟨path, language, .failed ⟨kind, message⟩⟩

/-- Whether the analysis succeeded. -/
def succeeded (r : FileResult) : Bool :=
  match r.outcome with
  | .analyzed _ => true
  | .failed _ => false

/-- The entities at the top level. -/
def entities (r : FileResult) : List Entity :=
  match r.outcome with
  | .analyzed findings => findings.entities
  | .failed _ => []

/-- All functions found. -/
def functions (r : FileResult) : List Entity := Entity.functions r.entities

/-- All classes found. -/
def classes (r : FileResult) : List Entity := Entity.classes r.entities

/-- The number of lines; a file that was not analysed has none. -/
def lines (r : FileResult) : Nat :=
  match r.outcome with
  | .analyzed findings => findings.source.lineCount
  | .failed _ => 0

/-- The number of bytes; a file that was not analysed has none. -/
def size (r : FileResult) : Int :=
  match r.outcome with
  | .analyzed findings => findings.source.size
  | .failed _ => 0

/-- Why parts do not make a result. -/
inductive PartsFault where
  | incomplete
  | contradictory
  deriving DecidableEq, Repr

/-- The message of a fault. -/
def PartsFault.message : PartsFault → String
  | incomplete => "A successful result needs a source unit and a score"
  | contradictory => "A failed result cannot carry a source, entities or scores"

/-- A result from parts. Without a failure there have to be a source and a score, with a failure
there may be neither, nor any entity. -/
def assemble (path : String) (language : Option String) (source : Option SourceUnit)
    (entities : List Entity) (score : Option Score) (failure : Option Failure) :
    Except PartsFault FileResult :=
  match failure, source, score with
  | none, some source, some score =>
    .ok ⟨path, language, .analyzed { source, entities, score }⟩
  | none, _, _ => .error .incomplete
  | some failure, none, none =>
    if entities.isEmpty then .ok ⟨path, language, .failed failure⟩ else .error .contradictory
  | some _, _, _ => .error .contradictory

end FileResult

end SourceMetrics
