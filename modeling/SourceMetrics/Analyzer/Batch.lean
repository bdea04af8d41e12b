import SourceMetrics.Analyzer.File
import SourceMetrics.Discovery.Walk
import SourceMetrics.Tally.Report

/-!
# Analysis of batches

The files of a batch are analysed in their order, as many at a time as the settings allow, and
progress is told after each. A batch may be cancelled once a number of files is done: the files that
have not started by then are not looked at and fail as cancelled.

The time limit is turned into seconds for each file that is started. If it is too large for that,
there is no answer, whatever has become of the files.

## Main definitions

* `FileRun` — what happened to a file of a batch
* `Analyzer.runFiles` — the runs of all files
* `BatchRun` — the outcome of a batch, with progress and files read
* `Analyzer.runDirectory` — the batch of the files below a directory
* `Analyzer.analyzeFile`, `analyzeFiles`, `analyzeDirectory` — the answers
-/

namespace SourceMetrics

/-- What happened to a file of a batch. -/
structure FileRun where
  result : FileResult
  /-- The files that were read. -/
  reads : List String := []
  /-- Whether the analysis was started. -/
  started : Bool := false

/-- What is told after each file. -/
structure Progress where
  completed : Nat
  total : Nat
  path : String
  succeeded : Bool
  deriving DecidableEq, Repr

/-- Whether a batch to be cancelled after a number of files is cancelled. -/
def isCancelled (cancelAfter : Option Nat) (completed : Nat) : Bool :=
  cancelAfter.any fun limit => limit ≤ completed

/-- The result for a file of a batch that was cancelled before. -/
def FileRun.cancelled (path : String) : FileRun :=
  { result := .failure path .cancelled "Analysis cancelled before start" none }

namespace Analyzer

/-- The run of a file. -/
def run (a : Analyzer) (disk : Disk) (path : String) : FileRun × Analyzer :=
  let done := a.runFile disk path
  ({ result := done.1, reads := a.readsOf disk path, started := true }, done.2)

/-- How many files are done when the file that comes after `earlier` others starts: all of them but
those that run beside it. -/
def doneBefore (a : Analyzer) (earlier : Nat) : Nat := earlier + 1 - a.settings.maxConcurrency.toNat

/-- The runs of files of which the first comes after `earlier` others. -/
def runsFrom (a : Analyzer) (disk : Disk) (cancelAfter : Option Nat) (earlier : Nat) :
    List String → List FileRun
  | [] => []
  | path :: rest =>
    if isCancelled cancelAfter (a.doneBefore earlier) then
      .cancelled path :: runsFrom a disk cancelAfter (earlier + 1) rest
    else
      let done := a.run disk path
      done.1 :: runsFrom done.2 disk cancelAfter (earlier + 1) rest

end Analyzer

/-- The outcome of a batch. -/
structure BatchRun where
  runs : List FileRun
  /-- The files that were read to find the files of the batch. -/
  findReads : List String := []

namespace BatchRun

/-- The results in the order of the files. -/
def results (b : BatchRun) : List FileResult := b.runs.map (·.result)

/-- The results with their tally. -/
def toBatchResult (b : BatchRun) : BatchResult := .ofResults b.results

/-- The files that were read, in their order. -/
def reads (b : BatchRun) : List String := b.findReads ++ b.runs.flatMap (·.reads)

/-- Whether the analysis of any file was started. -/
def started (b : BatchRun) : Bool := b.runs.any (·.started)

/-- The largest number of files that were analysed at a time, if the settings allow one. -/
def peak (b : BatchRun) : Nat := b.started.toNat

/-- What was told after each run, of which the first comes after `completed` others. -/
def progressFrom (total completed : Nat) : List FileRun → List Progress
  | [] => []
  | run :: rest =>
    ⟨completed + 1, total, run.result.path, run.result.succeeded⟩ ::
      progressFrom total (completed + 1) rest

/-- What was told after each file. -/
def progress (b : BatchRun) : List Progress := progressFrom b.runs.length 0 b.runs

end BatchRun

namespace Analyzer

/-- The batch of some files. -/
def runFiles (a : Analyzer) (disk : Disk) (cancelAfter : Option Nat) (paths : List String) :
    BatchRun :=
  { runs := a.runsFrom disk cancelAfter 0 paths }

/-- The batch of the files below a directory. -/
def runDirectory (a : Analyzer) (disk : Disk) (reader : IgnoreReader) (cancelAfter : Option Nat)
    (root : String) : Except FindError BatchRun := do
  let paths ← disk.findFiles reader a.settings a.registry root
  return { a.runFiles disk cancelAfter paths with findReads := findReads a.settings root }

end Analyzer

/-! ### Answers -/

/-- Why there is no answer. -/
inductive BatchError where
  | find (error : FindError)
  /-- The time limit is too large to be kept. -/
  | timeLimit
  deriving DecidableEq, Repr

/-- The message of an error. -/
def BatchError.message : BatchError → String
  | find error => error.message
  | timeLimit => "int too large to convert to float"

namespace Analyzer

/-- What comes of files, unless one of them is started under a time limit that cannot be kept. -/
def answer {α : Type} (a : Analyzer) (started : Bool) (outcome : α) : Except BatchError α :=
  if started && a.settings.timeoutSeconds?.isNone then .error .timeLimit else .ok outcome

/-- The answer for a file. -/
def analyzeFile (a : Analyzer) (disk : Disk) (path : String) : Except BatchError FileRun :=
  let run := (a.run disk path).1
  a.answer run.started run

/-- The answer for a batch of files. -/
def analyzeFiles (a : Analyzer) (disk : Disk) (cancelAfter : Option Nat) (paths : List String) :
    Except BatchError BatchRun :=
  let batch := a.runFiles disk cancelAfter paths
  a.answer batch.started batch

/-- The answer for the files below a directory. -/
def analyzeDirectory (a : Analyzer) (disk : Disk) (reader : IgnoreReader)
    (cancelAfter : Option Nat) (root : String) : Except BatchError BatchRun := do
  let batch ← (a.runDirectory disk reader cancelAfter root).mapError .find
  a.answer batch.started batch

end Analyzer

end SourceMetrics
