import SourceMetrics.CommandLine.Word
import SourceMetrics.Settings.Basic

/-!
# Requests

A request is what a command line asks for: paths to analyse, the form of the answer and changes to
the settings. The paths stand together: arguments that an option separates from the first of them
are not recognised.

## Main definitions

* `Request` — what is asked for
* `Halt` — why there is nothing to do
* `Request.ofWords`, `Request.parse` — the request of a command line
-/

namespace SourceMetrics

/-- What a command line asks for. -/
structure Request where
  paths : List String := []
  json : Bool := false
  config : Option String := none
  includeTests : Bool := false
  includeNodeModules : Bool := false
  maxFileSize : Option Int := none
  timeout : Option Int := none
  maxConcurrency : Option Int := none
  ignore : List String := []
  noGitignore : Bool := false
  noCase : Bool := false
  noLogical : Bool := false
  noTernary : Bool := false
  verbose : Bool := false
  deriving DecidableEq, Repr

/-- Why a command line leads to nothing: it asks for help, or it is wrong. -/
inductive Halt where
  | help
  | usage (error : UsageError)
  deriving DecidableEq, Repr

namespace Request

/-- Reads the value of an option that is an integer. -/
def integer (o : CommandOption) (value : String) : Except Halt Int :=
  match Text.readInteger value with
  | .ok n => .ok n
  | .error _ => .error (.usage (.notInteger o value))

/-- The request with an option. Options without a value are given an empty one. -/
def withOption (r : Request) (o : CommandOption) (value : String) : Except Halt Request :=
  match o with
  | .help => .error .help
  | .json => .ok { r with json := true }
  | .config => .ok { r with config := some value }
  | .includeTests => .ok { r with includeTests := true }
  | .includeNodeModules => .ok { r with includeNodeModules := true }
  | .maxFileSize => (integer o value).map fun n => { r with maxFileSize := some n }
  | .timeout => (integer o value).map fun n => { r with timeout := some n }
  | .maxConcurrency => (integer o value).map fun n => { r with maxConcurrency := some n }
  | .ignore => .ok { r with ignore := r.ignore ++ [value] }
  | .noGitignore => .ok { r with noGitignore := true }
  | .noCase => .ok { r with noCase := true }
  | .noLogical => .ok { r with noLogical := true }
  | .noTernary => .ok { r with noTernary := true }
  | .verbose => .ok { r with verbose := true }

/-- A request in the making. -/
structure Draft where
  request : Request := {}
  /-- Whether an option came behind the paths. -/
  closed : Bool := false
  /-- Words that were not recognised. -/
  extras : List String := []
  deriving DecidableEq, Repr

namespace Draft

/-- The draft with an argument: a path, if paths may still come. -/
def withArgument (d : Draft) (text : String) : Draft :=
  if d.closed then { d with extras := d.extras ++ [text] }
  else { d with request := { d.request with paths := d.request.paths ++ [text] } }

/-- The draft with two dashes. They belong to the paths if there are any. -/
def withDashes (d : Draft) (last : Bool) : Draft :=
  if d.closed || (d.request.paths.isEmpty && last) then { d with extras := d.extras ++ ["--"] }
  else d

/-- The draft when an option begins. -/
def beginOption (d : Draft) : Draft := { d with closed := !d.request.paths.isEmpty }

/-- The draft with an option. -/
def withOption (d : Draft) (o : CommandOption) (value : String) : Except Halt Draft :=
  (d.request.withOption o value).map fun request => { d with request }

/-- The draft with options without values. -/
def withOptions (d : Draft) (options : List CommandOption) : Except Halt Draft :=
  options.foldlM (fun d o => d.withOption o "") d

end Draft

/-- The options that letters behind an option of one letter stand for, and what is left of the
letters if there is no such option. -/
def cluster (o : CommandOption) : List Char → Except Halt (List CommandOption × List String)
  | [] => .ok ([o], [])
  | '-' :: rest => .error (.usage (.unexpectedValue o (String.ofList ('-' :: rest))))
  | letter :: rest =>
    match CommandOption.ofSpelling? (String.ofList ['-', letter]) with
    | none => .ok ([o], [String.ofList ('-' :: letter :: rest)])
    | some next =>
      match rest with
      | '=' :: value => .error (.usage (.unexpectedValue next (String.ofList value)))
      | _ => (cluster next rest).map fun found => (o :: found.1, found.2)

/-- The draft after words. -/
def draft (d : Draft) : List Word → Except Halt Draft
  | [] => .ok d
  | .argument text :: rest => draft (d.withArgument text) rest
  | .dashes :: rest => draft (d.withDashes rest.isEmpty) rest
  | .unknown text :: rest =>
    let begun := d.beginOption
    draft { begun with extras := begun.extras ++ [text] } rest
  | .option o (.value value) :: rest =>
    if o.takesValue then do
      draft (← d.beginOption.withOption o value) rest
    else .error (.usage (.unexpectedValue o value))
  | .option o (.letters letters) :: rest => do
    let found ← cluster o letters
    let next ← d.beginOption.withOptions found.1
    draft { next with extras := next.extras ++ found.2 } rest
  | .option o .none :: rest =>
    if o.takesValue then
      match rest with
      | .argument value :: rest => do
        draft (← d.beginOption.withOption o value) rest
      | _ => .error (.usage (.missingValue o))
    else do
      draft (← d.beginOption.withOption o "") rest

/-- The request of some words. -/
def ofWords (words : List Word) : Except Halt Request := do
  let d ← draft {} words
  if d.request.paths.isEmpty then
    throw (.usage .missingPaths)
  if !d.extras.isEmpty then
    throw (.usage (.unrecognized d.extras))
  return d.request

/-- The request of a command line. -/
def parse (arguments : List String) : Except Halt Request := do
  let words ← (Word.classify arguments).mapError Halt.usage
  ofWords words

/-- The settings with the changes that are asked for. -/
def adjust (r : Request) (s : Settings) : Except SettingsError Settings :=
  Settings.check
    { s with
      includeTests := r.includeTests || s.includeTests
      includeNodeModules := r.includeNodeModules || s.includeNodeModules
      maxFileSize := r.maxFileSize.getD s.maxFileSize
      timeout := r.timeout.getD s.timeout
      maxConcurrency := r.maxConcurrency.getD s.maxConcurrency
      ignorePatterns := s.ignorePatterns ++ r.ignore.map Json.str
      useGitignore := !r.noGitignore && s.useGitignore
      counting :=
        { cases := !r.noCase && s.counting.cases
          logical := !r.noLogical && s.counting.logical
          ternary := !r.noTernary && s.counting.ternary } }

end Request

end SourceMetrics
