import SourceMetrics.Ignore.Glob
import SourceMetrics.Text.Quoted
import SourceMetrics.Text.Search

/-!
# Ignore rules

A rule says which paths are left out, in the notation of version control. A rule is a sequence of
globs between slashes, where two stars stand for any number of components. A rule without a slash,
except at its end, applies at every depth. A rule that ends with a slash is about what lies inside
directories. An exclamation mark in front takes back what earlier rules leave out, so the last rule
that matches a path decides.

## Main definitions

* `IgnoreRule.parse` — the rule that a line denotes
* `IgnoreRules.ignores` — whether a path is left out
* `IgnoreRules.read` — the paths that lines leave out
-/

namespace SourceMetrics

/-- A rule: what it matches, and whether that is left out or taken back. -/
structure IgnoreRule where
  keeps : Bool
  pattern : Pattern
  deriving DecidableEq, Repr

/-- Why rules cannot be used. -/
inductive IgnoreError where
  /-- The text denotes no rule. -/
  | invalid (rule : String)
  /-- A range of characters in the rule ends before it starts. -/
  | reversedRange (first last : Char)
  /-- A value that is not a text where a rule is expected. -/
  | notText (type : String)
  deriving DecidableEq, Repr

/-- The message of an error. -/
def IgnoreError.message : IgnoreError → String
  | invalid rule => s!"Invalid git pattern: {Text.quoted rule}"
  | reversedRange first last => "bad character range " ++ String.ofList [first, '-', last]
  | notText type => s!"'{type}' object has no attribute 'strip'"

namespace IgnoreRule

open Pattern

/-- Any character of a line. -/
def dot : Pattern := noneOf "\n"

/-- Two stars. -/
def starStar : List Char := ['*', '*']

/-- The components of a rule without repeated pairs of stars. -/
def dropRepeated : List (List Char) → List (List Char)
  | a :: b :: rest =>
    if a == starStar && b == starStar then dropRepeated (b :: rest)
    else a :: dropRepeated (b :: rest)
  | short => short

/-- Anchors a rule: one that begins with a slash stays where it is, one without a slash, except at
its end, applies at every depth. -/
def anchor : List (List Char) → List (List Char)
  | [] :: rest => rest
  | [a] => if a == starStar then [a] else [starStar, a]
  | [a, []] => if a == starStar then [a, []] else [starStar, a, []]
  | other => other

/-- Lets a rule that ends with a slash go on with everything inside. -/
def openEnd : List (List Char) → List (List Char)
  | [] => []
  | [a] => [a]
  | [a, []] => [a, starStar]
  | a :: rest => a :: openEnd rest

/-- What may follow the last component: everything inside a directory. -/
def below : Pattern := opt (lit "/" ++ many dot)

/-- The pattern of the components of a rule, where `first` tells that none came before and `slash`
that the next one needs a slash in front. -/
def body (first slash : Bool) : List (List Char) → Except Glob.Fault Pattern
  | [] => .ok finish
  | part :: rest => do
    let last := rest.isEmpty
    let front := if slash then lit "/" else empty
    if part == starStar then
      if first && last then
        return many1 (noneOf "/") ++ below ++ (← body false slash rest)
      else if first then
        return opt (many1 dot ++ lit "/") ++ (← body false false rest)
      else if last then
        return lit "/" ++ many dot ++ (← body false slash rest)
      else
        return opt (lit "/" ++ many1 dot) ++ (← body false true rest)
    else
      let glob ← if part == ['*'] then .ok (many1 (noneOf "/")) else Glob.pattern part
      let after := if last then below else empty
      return front ++ glob ++ after ++ (← body false true rest)

/-- The pattern of everything that lies inside some directory. -/
def insideAny : Pattern := many1 dot ++ lit "/" ++ many dot ++ finish

/-- The pattern of a rule without its exclamation mark; none if nothing is left of it. -/
def pattern? (rule : List Char) : Except Glob.Fault (Option Pattern) :=
  let parts := dropRepeated (Text.splitOn '/' rule)
  if parts == [starStar, []] then .ok (some insideAny)
  else
    match openEnd (anchor parts) with
    | [] => .ok none
    | found => (body true false found).map some

/-- The text of a rule without blanks around it. A blank behind a backslash stays. -/
def trimmed (line : List Char) : List Char :=
  if ['\\', ' '].isSuffixOf line then Text.trimStart line else Text.trim line

/-- The rule that a line denotes. Comments, empty lines and a slash alone denote none. -/
def parse (line : String) : Except IgnoreError (Option IgnoreRule) :=
  let text := trimmed line.toList
  if text == [] || text == ['/'] || text.head? == some '#' then .ok none
  else
    let keeps := text.head? == some '!'
    match pattern? (if keeps then text.drop 1 else text) with
    | .ok (some pattern) => .ok (some { keeps, pattern })
    | .ok none | .error .trailingBackslash => .error (.invalid line)
    | .error (.reversedRange first last) => .error (.reversedRange first last)

end IgnoreRule

/-- Rules in their order. -/
abbrev IgnoreRules := List IgnoreRule

namespace IgnoreRules

/-- The lines that are neither blank nor comments, trimmed. -/
def effective (lines : List String) : List String :=
  (lines.map Text.trimString).filter fun line => line != "" && !line.startsWith "#"

/-- The rules of some lines. -/
def ofLines (lines : List String) : Except IgnoreError IgnoreRules :=
  (lines.mapM IgnoreRule.parse).map fun rules => rules.filterMap id

/-- The form of a path that rules are matched with: without a slash or a dot and a
slash in front. -/
def relative (path : List Char) : List Char :=
  match path with
  | '/' :: rest => rest
  | '.' :: '/' :: rest => rest
  | other => other

/-- Whether a path is left out: the last rule that matches it decides. -/
def ignores (rules : IgnoreRules) (path : String) : Bool :=
  rules.foldl (fun ignored rule =>
    if rule.pattern.accepts (relative path.toList) then !rule.keeps else ignored) false

/-- The paths that lines leave out, or what is wrong with the lines. -/
def read (lines : List String) : Except IgnoreError (String → Bool) := (ofLines lines).map ignores

end IgnoreRules

end SourceMetrics
