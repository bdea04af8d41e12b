import SourceMetrics.Text.Digit
import SourceMetrics.Text.Quoted

/-!
# Words of a command line

The words of a command line are options and arguments. An option may be shortened as long as only
one option begins with what is left of it, and its value may follow an equals sign. Options of one
letter can be written together. Two dashes make all words behind them arguments. A word that looks
like a negative number or contains a space is an argument too.

## Main definitions

* `CommandOption` — the options, with their spellings
* `Word` — options and arguments
* `Word.classify` — the words of a command line
-/

namespace SourceMetrics

/-- The options. -/
inductive CommandOption where
  | help
  | json
  | config
  | includeTests
  | includeNodeModules
  | maxFileSize
  | timeout
  | maxConcurrency
  | ignore
  | noGitignore
  | noCase
  | noLogical
  | noTernary
  | verbose
  deriving DecidableEq, Repr

namespace CommandOption

/-- The options in the order in which they are described. -/
def all : List CommandOption :=
  [help, json, config, includeTests, includeNodeModules, maxFileSize, timeout, maxConcurrency,
   ignore, noGitignore, noCase, noLogical, noTernary, verbose]

/-- How an option is written. -/
def spellings : CommandOption → List String
  | help => ["-h", "--help"]
  | json => ["--json"]
  | config => ["--config"]
  | includeTests => ["--include-tests"]
  | includeNodeModules => ["--include-node-modules"]
  | maxFileSize => ["--max-file-size"]
  | timeout => ["--timeout-ms"]
  | maxConcurrency => ["--max-concurrency"]
  | ignore => ["--ignore"]
  | noGitignore => ["--no-gitignore"]
  | noCase => ["--no-case"]
  | noLogical => ["--no-logical"]
  | noTernary => ["--no-ternary"]
  | verbose => ["--verbose", "-v"]

/-- Whether an option has a value. -/
def takesValue : CommandOption → Bool
  | config | maxFileSize | timeout | maxConcurrency | ignore => true
  | help | json | includeTests | includeNodeModules | noGitignore | noCase | noLogical | noTernary
  | verbose => false

/-- How messages name an option. -/
def display (o : CommandOption) : String := "/".intercalate o.spellings

/-- All spellings with their options. -/
def table : List (String × CommandOption) :=
  all.flatMap fun o => o.spellings.map fun spelling => (spelling, o)

/-- The option of a spelling. -/
def ofSpelling? (spelling : String) : Option CommandOption := table.lookup spelling

end CommandOption

/-- What is attached to an option: a value behind an equals sign, or the letters
behind the first. -/
inductive Attached where
  | none
  | value (text : String)
  | letters (text : List Char)
  deriving DecidableEq, Repr

/-- A word of a command line. -/
inductive Word where
  | argument (text : String)
  /-- Two dashes, behind which there are arguments only. -/
  | dashes
  | option (o : CommandOption) (attached : Attached)
  /-- A word that looks like an option but is none. -/
  | unknown (text : String)
  deriving DecidableEq, Repr

/-- Why a command line is not carried out. -/
inductive UsageError where
  | ambiguous (word : String) (candidates : List String)
  | missingValue (o : CommandOption)
  | unexpectedValue (o : CommandOption) (value : String)
  | notInteger (o : CommandOption) (value : String)
  | missingPaths
  | unrecognized (words : List String)
  /-- The configuration is refused. -/
  | configuration (reason : String)
  deriving DecidableEq, Repr

/-- The message of an error. -/
def UsageError.message : UsageError → String
  | ambiguous word candidates =>
    s!"ambiguous option: {word} could match " ++ ", ".intercalate candidates
  | missingValue o => s!"argument {o.display}: expected one argument"
  | unexpectedValue o value =>
    s!"argument {o.display}: ignored explicit argument {Text.quoted value}"
  | notInteger o value => s!"argument {o.display}: invalid int value: {Text.quoted value}"
  | missingPaths => "the following arguments are required: paths"
  | unrecognized words => "unrecognized arguments: " ++ " ".intercalate words
  | configuration reason => s!"Invalid configuration: {reason}"

/-- The complaint about a command line. -/
def UsageError.complaint (e : UsageError) : String := s!"complexity-analyzer: error: {e.message}"

namespace Word

/-- Whether some characters are decimal digits, of any script. -/
def allDigits (cs : List Char) : Bool := cs.all fun c => (Text.digitValue? c).isSome

/-- Whether a word looks like a negative number: digits, or a fraction whose digits before the point
may be missing. A line feed at the end does not matter. -/
def isNegativeNumber (cs : List Char) : Bool :=
  match cs with
  | '-' :: rest =>
    let body := if rest.getLast? = some '\n' then rest.dropLast else rest
    let fraction := (body.dropWhile (· != '.')).drop 1
    if body.contains '.' then
      allDigits (body.takeWhile (· != '.')) && allDigits fraction && !fraction.isEmpty
    else allDigits body && !body.isEmpty
  | _ => false

/-- A word divided at its first equals sign. -/
def divide (word : String) : String × Attached :=
  let cs := word.toList
  if cs.contains '=' then
    (String.ofList (cs.takeWhile (· != '=')),
      .value (String.ofList ((cs.dropWhile (· != '=')).drop 1)))
  else (word, .none)

/-- The options that a word may stand for, with their spellings and what is attached. -/
def candidates (word : String) : List (String × Word) :=
  let cs := word.toList
  if ['-', '-'].isPrefixOf cs then
    let parts := divide word
    (CommandOption.table.filter fun entry => parts.1.toList.isPrefixOf entry.1.toList).map
      fun entry => (entry.1, option entry.2 parts.2)
  else
    (CommandOption.table.filter fun entry => entry.1.toList == cs.take 2).map
      fun entry => (entry.1, option entry.2 (.letters (cs.drop 2)))

/-- What a word is that is not written like any option: an argument or an unknown option. -/
def other (word : String) : Word :=
  if isNegativeNumber word.toList || word.toList.contains ' ' then argument word else unknown word

/-- What a word is, before two dashes. -/
def ofText (word : String) : Except UsageError Word :=
  if word.toList.head? ≠ some '-' then .ok (argument word)
  else
    match CommandOption.ofSpelling? word with
    | some o => .ok (option o .none)
    | none =>
      if word = "-" then .ok (argument word)
      else
        let parts := divide word
        match parts.2, CommandOption.ofSpelling? parts.1 with
        | .value value, some o => .ok (option o (.value value))
        | _, _ =>
          match candidates word with
          | [] => .ok (other word)
          | [(_, found)] => .ok found
          | several => .error (.ambiguous word (several.map Prod.fst))

/-- The words of a command line. -/
def classify : List String → Except UsageError (List Word)
  | [] => .ok []
  | "--" :: rest => .ok (dashes :: rest.map argument)
  | word :: rest => do
    let first ← ofText word
    return first :: (← classify rest)

end Word

end SourceMetrics
