import SourceMetrics.Analyzer.Basic
import SourceMetrics.Disk.Basic

/-!
# Analysis of files

A file is analysed in steps: its size is checked before it is read, its language comes from the
registered extensions or else from the detector, and the scanner of the language does the rest. The
first step that fails decides the result.

## Main definitions

* `FileProblem` — why a file has no analysis
* `Analyzer.analyzePath` — the result for a path
* `Analyzer.runFile` — the same with the time limit
-/

namespace SourceMetrics

/-- Why a file has no analysis. -/
inductive FileProblem where
  | disk (error : DiskError)
  | tooLarge (size limit : Int)
  /-- No language was recognised. -/
  | undetected
  deriving DecidableEq, Repr

/-- The failure that a problem amounts to. -/
def FileProblem.result (path : String) : FileProblem → FileResult
  | disk error =>
    if error.isMissing then .failure path .notFound s!"File not found: {path}" none
    else if error.isSystem then
      .failure path .unreadable s!"Cannot read {path}: {error.message}" none
    else .failure path .scanFailure s!"Analysis failed: {error.message}" none
  | tooLarge size limit =>
    .failure path .tooLarge s!"File size {size} exceeds limit of {limit} bytes" none
  | undetected => .failure path .unsupported s!"Could not detect language of {path}" none

namespace Analyzer

/-- Checks the size of a file. -/
def checkSize (a : Analyzer) (disk : Disk) (path : String) : Except FileProblem Unit :=
  match disk.stat path with
  | .error e => .error (.disk e)
  | .ok size =>
    if a.settings.maxFileSize < size then .error (.tooLarge size a.settings.maxFileSize) else .ok ()

/-- The content of a file, if it is not too large. -/
def load (a : Analyzer) (disk : Disk) (path : String) : Except FileProblem (List UInt8) :=
  match a.checkSize disk path with
  | .error problem => .error problem
  | .ok () => (disk.read path).mapError .disk

/-- The language of a file: by its extension if that is registered, else as detected. -/
def languageOf? (a : Analyzer) (path : String) (text : List Char) : Option String :=
  let suffix := Path.suffix path
  let registered := if suffix = "" then none else a.registry.languageFor? suffix
  registered <|> (a.detector.detect path (some (String.ofList text))).map (·.language)

/-- The result for a file, without a time limit. -/
def analyzePath (a : Analyzer) (disk : Disk) (path : String) : FileResult × Analyzer :=
  match a.load disk path with
  | .error problem => (problem.result path, a)
  | .ok bytes =>
    let text := Utf8.decode bytes
    match a.languageOf? path text with
    | none => (FileProblem.undetected.result path, a)
    | some language => a.analyzeText path language text bytes.length

/-- The files that are read for the analysis of a file: the file itself, or none if its size stops
the analysis before. -/
def readsOf (a : Analyzer) (disk : Disk) (path : String) : List String :=
  match a.checkSize disk path with
  | .ok () => [path]
  | .error _ => []

/-- Whether reading a file takes longer than the time limit. -/
def timesOut (a : Analyzer) (disk : Disk) (path : String) : Bool :=
  !(a.readsOf disk path).isEmpty && a.settings.timeout < disk.delay path

/-- The result for a file within the time limit. -/
def runFile (a : Analyzer) (disk : Disk) (path : String) : FileResult × Analyzer :=
  let run := a.analyzePath disk path
  if a.timesOut disk path then
    (.failure path .timeout s!"Analysis timed out after {a.settings.timeout}ms" none, run.2)
  else run

end Analyzer

end SourceMetrics
