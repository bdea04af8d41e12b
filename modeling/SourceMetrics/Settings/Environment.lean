import SourceMetrics.Settings.Basic
import SourceMetrics.Table
import SourceMetrics.Text.LowerCase
import SourceMetrics.Text.Search

/-!
# Settings from the environment

Every setting has a variable. A switch is on if its variable says so in one of four words; an
integer that is blank is not set; patterns are separated by commas.

## Main definitions

* `Environment` — the variables
* `Settings.ofEnvironment` — the settings that the variables ask for
-/

namespace SourceMetrics

/-- Variables with their values. -/
abbrev Environment := Table String

namespace Environment

/-- The variables that settings depend on. -/
def names : List String :=
  ["COMPLEXITY_INCLUDE_TESTS", "COMPLEXITY_INCLUDE_NODE_MODULES", "COMPLEXITY_MAX_FILE_SIZE",
   "COMPLEXITY_TIMEOUT_MS", "COMPLEXITY_MAX_CONCURRENCY", "COMPLEXITY_IGNORE_PATTERNS",
   "COMPLEXITY_USE_GITIGNORE", "COMPLEXITY_COUNT_CASE_STATEMENTS",
   "COMPLEXITY_COUNT_LOGICAL_OPERATORS", "COMPLEXITY_COUNT_TERNARY", "COMPLEXITY_THRESHOLD_LOW",
   "COMPLEXITY_THRESHOLD_MEDIUM", "COMPLEXITY_THRESHOLD_HIGH"]

/-- The words that turn a switch on. -/
def onWords : List String := ["1", "true", "yes", "on"]

/-- A switch. -/
def switch (env : Environment) (name : String) (default : Bool) : Bool :=
  match env.get? name with
  | none => default
  | some value => onWords.contains (Text.lower (Text.trimString value))

/-- The items of a list that are not blank, trimmed. -/
def items (env : Environment) (name : String) : List String :=
  match env.get? name with
  | none => []
  | some value =>
    ((Text.splitOn ',' value.toList).map fun item =>
      String.ofList (Text.trim item)).filter (· != "")

/-- An integer. -/
def integer (env : Environment) (name : String) (default : Int) : Except SettingsError Int :=
  match env.get? name with
  | none => .ok default
  | some value =>
    if Text.allBlank value.toList then .ok default
    else
      match Text.readInteger value with
      | .ok n => .ok n
      | .error _ => .error (.malformedVariable name value)

end Environment

/-- The settings that the variables of an environment ask for. -/
def Settings.ofEnvironment (env : Environment) : Except SettingsError Settings := do
  let defaults : Settings := {}
  let maxFileSize ← env.integer "COMPLEXITY_MAX_FILE_SIZE" defaults.maxFileSize
  let timeout ← env.integer "COMPLEXITY_TIMEOUT_MS" defaults.timeout
  let maxConcurrency ← env.integer "COMPLEXITY_MAX_CONCURRENCY" defaults.maxConcurrency
  let low ← env.integer "COMPLEXITY_THRESHOLD_LOW" defaults.thresholds.low
  let medium ← env.integer "COMPLEXITY_THRESHOLD_MEDIUM" defaults.thresholds.medium
  let high ← env.integer "COMPLEXITY_THRESHOLD_HIGH" defaults.thresholds.high
  let settings : Settings :=
    { includeTests := env.switch "COMPLEXITY_INCLUDE_TESTS" defaults.includeTests
      includeNodeModules := env.switch "COMPLEXITY_INCLUDE_NODE_MODULES" defaults.includeNodeModules
      maxFileSize
      timeout
      maxConcurrency
      ignorePatterns := (env.items "COMPLEXITY_IGNORE_PATTERNS").map .str
      useGitignore := env.switch "COMPLEXITY_USE_GITIGNORE" defaults.useGitignore
      counting :=
        { cases := env.switch "COMPLEXITY_COUNT_CASE_STATEMENTS" true
          logical := env.switch "COMPLEXITY_COUNT_LOGICAL_OPERATORS" true
          ternary := env.switch "COMPLEXITY_COUNT_TERNARY" true } }
  settings.checkWith { low, medium, high }

end SourceMetrics
