import SourceMetrics.Json.Basic
import SourceMetrics.Score.Cyclomatic
import SourceMetrics.Settings.Thresholds
import SourceMetrics.Text.Integer

/-!
# Settings

What an analysis takes into account: which files it looks at, how large and slow they may be, how
many are analysed at once, what counts as a decision and which complexities are reported. Limits
have to be positive, which is checked after the thresholds.

## Main definitions

* `Settings` — the settings with their defaults
* `SettingsError` — why settings are refused
* `Settings.check` — the condition on the limits
-/

namespace SourceMetrics

/-- The settings of an analysis. -/
structure Settings where
  includeTests : Bool := false
  includeNodeModules : Bool := false
  /-- The largest size of a file in bytes. -/
  maxFileSize : Int := 1048576
  /-- How long the analysis of a file may take, in milliseconds. -/
  timeout : Int := 30000
  /-- How many files are analysed at once. -/
  maxConcurrency : Int := 10
  /-- What is left out; only texts are patterns, which shows when they are used. -/
  ignorePatterns : List Json := []
  useGitignore : Bool := true
  counting : CountingRules := {}
  thresholds : Thresholds := {}

/-- Why settings are refused. -/
inductive SettingsError where
  /-- A value without members where an object is expected. -/
  | noMembers (type : String)
  /-- A value that is neither a number nor a text where an integer is expected. -/
  | noInteger (type : String)
  /-- A value without items where a list is expected. -/
  | noItems (type : String)
  /-- A text that is not an integer. -/
  | malformedInteger (text : String)
  /-- An integer that is too long to be read. -/
  | longInteger (digits : Nat)
  | undefinedNumber
  | infiniteNumber
  /-- A variable of the environment that is not an integer. -/
  | malformedVariable (name value : String)
  | thresholds (fault : Thresholds.Fault)
  | fileSizeLimit
  | timeLimit
  | concurrencyLimit
  deriving DecidableEq, Repr

namespace SettingsError

/-- The message of an error. -/
def message : SettingsError → String
  | noMembers type => s!"'{type}' object has no attribute 'get'"
  | noInteger type =>
    "int() argument must be a string, a bytes-like object or a real number, not " ++ s!"'{type}'"
  | noItems type => s!"'{type}' object is not iterable"
  | malformedInteger text => s!"invalid literal for int() with base 10: {Text.quoted text}"
  | longInteger digits =>
    s!"Exceeds the limit ({Text.maxIntegerDigits} digits) for integer string conversion: " ++
      s!"value has {digits} digits; use sys.set_int_max_str_digits() to increase the limit"
  | undefinedNumber => "cannot convert float NaN to integer"
  | infiniteNumber => "cannot convert float infinity to integer"
  | malformedVariable name value => s!"{name} must be an integer, got: {Text.quoted value}"
  | thresholds fault => fault.message
  | fileSizeLimit => "max_file_size must be a positive number of bytes"
  | timeLimit => "timeout_ms must be a positive number of milliseconds"
  | concurrencyLimit => "max_concurrency must be at least 1"

/-- Whether a value of the right type is at fault. -/
def isBadValue : SettingsError → Bool
  | noMembers _ | noInteger _ | noItems _ | infiniteNumber => false
  | malformedInteger _ | longInteger _ | undefinedNumber | malformedVariable _ _ | thresholds _
  | fileSizeLimit | timeLimit | concurrencyLimit => true

end SettingsError

namespace Settings

/-- The settings, if their limits are positive. -/
def check (s : Settings) : Except SettingsError Settings :=
  if s.maxFileSize ≤ 0 then .error .fileSizeLimit
  else if s.timeout ≤ 0 then .error .timeLimit
  else if s.maxConcurrency < 1 then .error .concurrencyLimit
  else .ok s

/-- The settings with thresholds, if the thresholds are in order and the limits are positive. -/
def checkWith (s : Settings) (t : Thresholds) : Except SettingsError Settings :=
  match t.check with
  | .error fault => .error (.thresholds fault)
  | .ok thresholds => { s with thresholds }.check

/-- The time limit in seconds, if it can be represented. -/
def timeoutSeconds? (s : Settings) : Option Number.Binary :=
  let ms := Number.Binary.ofNat s.timeout.toNat
  if ms.overflows then none else some (ms.div (.ofNat 1000))

end Settings

end SourceMetrics
