import SourceMetrics.Analyzer.Batch
import SourceMetrics.CommandLine.MediaType
import SourceMetrics.CommandLine.Request
import SourceMetrics.CommandLine.Summary
import SourceMetrics.Disk.Volume
import SourceMetrics.Json.Parser
import SourceMetrics.Registry.Default
import SourceMetrics.Settings.Environment
import SourceMetrics.Settings.Options

/-!
# Running a command line

The settings come from a file of options, if one is named, and otherwise from the environment; the
command line has the last word. Directories stand for the files found below them. The answer is a
report in JSON or a summary, and the exit code tells whether anything could be analysed. Which media
types a path suggests and what ignore rules mean is settled elsewhere.

## Main definitions

* `CommandBasis` — what is settled elsewhere
* `CommandAnswer` — what a command line leads to
* `CommandError` — why it leads to nothing
* `runCommand` — the answer to a command line
-/

namespace SourceMetrics

/-- What a command line relies on and does not settle itself. -/
structure CommandBasis where
  /-- The media types that a path suggests, the likeliest first. -/
  mediaTypes : String → List String
  reader : IgnoreReader

/-- What the command relies on. -/
def CommandBasis.standard : CommandBasis := ⟨knownMediaTypes, IgnoreRules.read⟩

/-- What a command line leads to. -/
inductive CommandAnswer where
  /-- A description of the options. -/
  | help
  /-- A complaint about the command line. -/
  | usage (error : UsageError)
  | finished (exitCode : Nat) (output : String)

/-- An error that a command line leads to. -/
inductive CommandError where
  | settings (error : SettingsError)
  | disk (error : DiskError)
  | batch (error : BatchError)
  deriving DecidableEq, Repr

/-- The message of an error. -/
def CommandError.message : CommandError → String
  | settings error => error.message
  | disk error => error.message
  | batch error => error.message

namespace Text

/-- The text in which every line break of one or two characters is a line feed. -/
def unifyBreaks : List Char → List Char
  | [] => []
  | '\r' :: '\n' :: rest => '\n' :: unifyBreaks rest
  | '\r' :: rest => '\n' :: unifyBreaks rest
  | c :: rest => c :: unifyBreaks rest

end Text

/-- Why options cannot be read from a file. -/
inductive OptionsError where
  | disk (error : DiskError)
  | encoding (fault : Utf8.Fault)
  | json (fault : Json.Fault)

/-- The message of an error. -/
def OptionsError.message : OptionsError → String
  | disk error => error.message
  | encoding fault => fault.message
  | json fault => fault.message

/-- The options in a file. -/
def Volume.readOptions (v : Volume) (path : String) : Except OptionsError Json := do
  let bytes ← (v.fileContent path).mapError OptionsError.disk
  let text ← (Utf8.decodeStrict bytes).mapError OptionsError.encoding
  (Json.parse (String.ofList (Text.unifyBreaks text))).mapError .json

/-- Why a request has no settings: they are refused with a reason, or of the wrong type. -/
inductive RequestError where
  | refused (reason : String)
  | wrongType (error : SettingsError)

/-- The error that a settings error amounts to. -/
def RequestError.ofSettings (e : SettingsError) : RequestError :=
  if e.isBadValue then .refused e.message else .wrongType e

namespace Request

/-- The settings before the changes that the request asks for. -/
def baseSettings (r : Request) (env : Environment) (v : Volume) : Except RequestError Settings :=
  match r.config.getD "" with
  | "" => (Settings.ofEnvironment env).mapError .ofSettings
  | path =>
    match v.readOptions path with
    | .error e => .error (.refused e.message)
    | .ok options => (Settings.ofOptions options).mapError .ofSettings

/-- The settings of a request. -/
def settings (r : Request) (env : Environment) (v : Volume) : Except RequestError Settings := do
  let base ← r.baseSettings env v
  (r.adjust base).mapError .ofSettings

end Request

/-- Whether a path is a directory to look into. What does not exist or cannot be reached is none;
other errors are not overlooked. -/
def Volume.isFolder (v : Volume) (path : String) : Except DiskError Bool :=
  match v.isDirectory path with
  | .ok found => .ok found
  | .error (.system .nameTooLong shown) => .error (.system .nameTooLong shown)
  | .error _ => .ok false

/-- The files that a path stands for. -/
def Volume.filesOf (v : Volume) (reader : IgnoreReader) (settings : Settings) (registry : Registry)
    (path : String) : Except CommandError (List String) := do
  if ← (v.isFolder path).mapError CommandError.disk then
    (v.disk.findFiles reader settings registry path).mapError fun e => .batch (.find e)
  else return [path]

/-- The results for some paths. -/
def Volume.analyze (v : Volume) (basis : CommandBasis) (settings : Settings) (paths : List String) :
    Except CommandError BatchResult := do
  let analyzer : Analyzer :=
    { settings, registry := .standard, detector := .standard basis.mediaTypes }
  let files ← paths.mapM (v.filesOf basis.reader settings analyzer.registry)
  let batch ← (analyzer.analyzeFiles v.disk none files.flatten).mapError CommandError.batch
  return batch.toBatchResult

namespace BatchResult

/-- The exit code: one if there were files and none could be analysed. -/
def exitCode (b : BatchResult) : Nat :=
  if b.tally.files ≠ 0 && b.tally.analyzed = 0 then 1 else 0

/-- The report or the summary. -/
def output (b : BatchResult) (json : Bool) : String :=
  (if json then b.toJson.pretty else b.summary) ++ "\n"

end BatchResult

/-- The answer to a command line. -/
def runCommand (basis : CommandBasis) (arguments : List String) (env : Environment) (v : Volume) :
    Except CommandError CommandAnswer :=
  match Request.parse arguments with
  | .error .help => .ok .help
  | .error (.usage e) => .ok (.usage e)
  | .ok request =>
    match request.settings env v with
    | .error (.refused reason) => .ok (.usage (.configuration reason))
    | .error (.wrongType e) => .error (.settings e)
    | .ok settings =>
      (v.analyze basis settings request.paths).map fun batch =>
        .finished batch.exitCode (batch.output request.json)

end SourceMetrics
