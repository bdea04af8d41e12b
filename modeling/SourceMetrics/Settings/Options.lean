import SourceMetrics.Settings.Basic

/-!
# Settings from options

Options are the members of a JSON object. Unknown members are ignored, so that several tools can
share a file of options. A switch is on unless its value is empty or zero; a limit is a number or a
text that denotes one; patterns may be any list, the characters of a text or the names of an object.

## Main definitions

* `Json.isSet`, `Json.toInteger`, `Json.toItems` — how values are understood
* `Settings.ofOptions` — the settings that options ask for
-/

namespace SourceMetrics

namespace Json

/-- What messages call the type of a value. -/
def typeName : Json → String
  | null => "NoneType"
  | bool _ => "bool"
  | int _ => "int"
  | real _ => "float"
  | str _ => "str"
  | arr _ => "list"
  | obj _ => "dict"

/-- Whether a value is neither empty nor zero. -/
def isSet : Json → Bool
  | null => false
  | bool b => b
  | int n => n != 0
  | real x => !x.isZero
  | str s => s != ""
  | arr items => !items.isEmpty
  | obj fields => !fields.isEmpty

/-- The integer that a number with a fraction is cut down to. -/
def truncate : Number.Signed → Except SettingsError Int
  | .undefined => .error .undefinedNumber
  | .infinite _ => .error .infiniteNumber
  | .finite negative x =>
    let ratio := x.toRatio
    let magnitude : Int := (ratio.1 / ratio.2 : Nat)
    .ok (if negative then -magnitude else magnitude)

/-- The integer that a value denotes. -/
def toInteger : Json → Except SettingsError Int
  | bool b => .ok (if b then 1 else 0)
  | int n => .ok n
  | real x => truncate x
  | str s =>
    match Text.readInteger s with
    | .ok n => .ok n
    | .error .malformed => .error (.malformedInteger s)
    | .error (.tooLong digits) => .error (.longInteger digits)
  | null => .error (.noInteger "NoneType")
  | arr _ => .error (.noInteger "list")
  | obj _ => .error (.noInteger "dict")

/-- The items of a value. -/
def toItems : Json → Except SettingsError (List Json)
  | arr items => .ok items
  | str s => .ok (s.toList.map fun c => str c.toString)
  | obj fields => .ok (fields.map fun field => str field.1)
  | other => .error (.noItems other.typeName)

/-- The member of an object under a name, or a default. -/
def member (options : Json) (name : String) (default : Json) : Except SettingsError Json :=
  match options with
  | obj _ => .ok ((options.get? name).getD default)
  | other => .error (.noMembers other.typeName)

end Json

namespace Settings

/-- The member under a name, or the given value if it is empty or zero. -/
def filled (options : Json) (name : String) (empty : Json) : Except SettingsError Json := do
  let value ← options.member name .null
  return if value.isSet then value else empty

/-- A switch. -/
def switch (options : Json) (name : String) (default : Bool) : Except SettingsError Bool := do
  return (← options.member name (.bool default)).isSet

/-- A limit. -/
def limit (options : Json) (name : String) (default : Int) : Except SettingsError Int := do
  (← options.member name (.int default)).toInteger

/-- The settings that options ask for. -/
def ofOptions (options : Json) : Except SettingsError Settings := do
  let defaults : Settings := {}
  let bounds ← filled options "thresholds" (.obj [])
  let includeTests ← switch options "includeTests" defaults.includeTests
  let includeNodeModules ← switch options "includeNodeModules" defaults.includeNodeModules
  let maxFileSize ← limit options "maxFileSize" defaults.maxFileSize
  let timeout ← limit options "timeout" defaults.timeout
  let maxConcurrency ← limit options "maxConcurrency" defaults.maxConcurrency
  let ignorePatterns ← (← filled options "ignorePatterns" (.arr [])).toItems
  let useGitignore ← switch options "useGitignore" defaults.useGitignore
  let cases ← switch options "countCaseStatements" true
  let logical ← switch options "countLogicalOperators" true
  let ternary ← switch options "countTernary" true
  let low ← limit bounds "low" defaults.thresholds.low
  let medium ← limit bounds "medium" defaults.thresholds.medium
  let high ← limit bounds "high" defaults.thresholds.high
  let settings : Settings :=
    { includeTests, includeNodeModules, maxFileSize, timeout, maxConcurrency, ignorePatterns,
      useGitignore, counting := { cases, logical, ternary } }
  settings.checkWith { low, medium, high }

end Settings

end SourceMetrics
