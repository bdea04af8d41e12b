import SourceMetrics.Masking
import SourceMetrics.Outline.Parameters
import SourceMetrics.Pattern

/-!
# Dialects of brace languages

What a scanner has to know about a language whose bodies stand between braces: how its comments and
literals look, and by which patterns its classes, functions, members and fields are recognised on a
line.

A pattern for a function ends with the parenthesis that opens its parameters, unless it remembers
the single parameter of an arrow function. A name that is a control word is no declaration, and
neither is one behind a type that contains a control word: `return f(x)` declares nothing.

## Main definitions

* `controlWords` — words that never name or type a declaration
* `Dialect` — the rules and patterns of a language
* `isDeclarableName`, `mentionsControlWord` — the two tests
-/

namespace SourceMetrics

/-- Words that can look like a name or a type, and are neither. -/
def controlWords : List String :=
  ["if", "else", "for", "foreach", "while", "do", "switch", "case", "default", "catch", "try",
   "finally", "return", "new", "delete", "throw", "throws", "synchronized", "lock", "using",
   "fixed", "checked", "unchecked", "goto", "break", "continue", "yield", "await", "typeof",
   "instanceof", "sizeof", "alignof", "decltype", "nameof", "static_assert", "function", "this",
   "super", "typedef", "co_return", "co_await", "co_yield", "assert"]

/-- Whether a text is a control word. -/
def isControlWord (cs : List Char) : Bool := controlWords.contains (String.ofList cs)

/-- A pattern for functions. -/
structure FunctionPattern where
  pattern : Pattern
  /-- Whether a match without a body is rejected. -/
  bodyRequired : Bool := true
  deriving DecidableEq, Repr

/-- How a language is outlined. -/
structure Dialect where
  rules : Masking.Rules := {}
  classes : List Pattern := []
  /-- Functions outside classes. -/
  functions : List FunctionPattern := []
  /-- Functions inside classes. -/
  members : List FunctionPattern := []
  fields : List Pattern := []
  /-- Whether a parameter list that says `void` is empty. -/
  voidIsEmpty : Bool := false
  deriving DecidableEq, Repr

/-- The number of parameters in the text of a parameter list. -/
def Dialect.parameterCount (d : Dialect) (cs : List Char) : Nat :=
  if d.voidIsEmpty && Text.trim cs == "void".toList then 0 else countParameters cs

/-- The parts of a name between double colons. -/
def nameSegments : List Char → List (List Char)
  | [] => [[]]
  | ':' :: ':' :: rest => [] :: nameSegments rest
  | c :: rest =>
    match nameSegments rest with
    | [] => [[c]]
    | segment :: segments => (c :: segment) :: segments

/-- The last part of a name, without marks of destructors and private members. -/
def baseName (name : List Char) : List Char :=
  ((nameSegments name).getLastD []).dropWhile fun c => c == '~' || c == '#'

/-- Whether a matched name can be declared. -/
def isDeclarableName (name : List Char) : Bool :=
  !(baseName name).isEmpty && !isControlWord (baseName name)

/-- A character that starts a word of a type. -/
def isTypeWordStart (c : Char) : Bool :=
  ('A' ≤ c && c ≤ 'Z') || ('a' ≤ c && c ≤ 'z') || c == '_'

/-- The words of a type, after `skip` characters. -/
def typeWordsFrom (skip : Nat) : List Char → List (List Char)
  | [] => []
  | c :: rest =>
    match skip with
    | skip + 1 => typeWordsFrom skip rest
    | 0 =>
      if isTypeWordStart c then
        (c :: rest.takeWhile Text.isWord) ::
          typeWordsFrom (rest.takeWhile Text.isWord).length rest
      else typeWordsFrom 0 rest

/-- Whether a type contains a control word. -/
def mentionsControlWord (type : List Char) : Bool := (typeWordsFrom 0 type).any isControlWord

end SourceMetrics
