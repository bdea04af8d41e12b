import SourceMetrics.Text.Alphanumeric
import SourceMetrics.Text.Blank

/-!
# Patterns

Declarations, interpreter lines and ignore rules are recognised by patterns: characters of a class
in sequence, with ordered choice, repetition and a look ahead. The choice is ordered and a
repetition prefers more rounds (`many`) or fewer (`few`); the first way to match a whole pattern is
the match, and later ways are tried only where what follows fails.

`Pattern.run` takes what has to follow as a function on the place that the pattern leads to. A
repetition goes another round only if the round before it moved on, so there is at most one round
for each character of the rest.

## Main definitions

* `CharClass` — classes of characters
* `Pattern` — the patterns, and `Pattern.Field`, the parts that a match remembers
* `Pattern.Cursor` — a place in a text, with what has been remembered
* `Pattern.run`, `Pattern.match?` — the match at a place
-/

namespace SourceMetrics

/-- A class of characters: words, blanks, ranges and single characters, or all others. -/
structure CharClass where
  word : Bool := false
  blank : Bool := false
  ranges : List (Char × Char) := []
  chars : List Char := []
  negated : Bool := false
  deriving DecidableEq, Repr

/-- Whether a character belongs to a class. -/
def CharClass.holds (k : CharClass) (c : Char) : Bool :=
  let listed :=
    (k.word && Text.isWord c) || (k.blank && Text.isBlank c) ||
      k.ranges.any (fun range => range.1 ≤ c && c ≤ range.2) || k.chars.contains c
  listed != k.negated

namespace Pattern

/-- The parts of a declaration that a match remembers. -/
inductive Field where
  /-- The name that is declared. -/
  | name
  /-- The type in front of the name. -/
  | type
  /-- The only parameter of an arrow function, written without parentheses. -/
  | parameter
  deriving DecidableEq, Repr

end Pattern

/-- A pattern over characters. -/
inductive Pattern where
  /-- Matches no characters. -/
  | empty
  /-- Matches one character of a class. -/
  | one (k : CharClass)
  /-- Matches one pattern after the other. -/
  | seq (first second : Pattern)
  /-- Matches the first pattern or, failing that, the second. -/
  | alt (first second : Pattern)
  /-- Matches a pattern repeatedly, as often as possible. -/
  | many (body : Pattern)
  /-- Matches a pattern repeatedly, as rarely as possible. -/
  | few (body : Pattern)
  /-- Matches a pattern and remembers what it matched. -/
  | remember (field : Pattern.Field) (body : Pattern)
  /-- Matches no characters if the pattern matches what follows. -/
  | ahead (body : Pattern)
  /-- Matches no characters unless the pattern matches what follows. -/
  | notAhead (body : Pattern)
  /-- Matches no characters between a word and something else. -/
  | boundary
  /-- Matches no characters at the end of the text, or before a line feed that ends it. -/
  | finish
  deriving DecidableEq, Repr

namespace Pattern

/-- A remembered part of the text: the text from its start on, its length, and the position at which
it ends. -/
structure Part where
  source : List Char
  length : Nat
  stop : Nat
  deriving DecidableEq, Repr

/-- The characters of a part. -/
def Part.text (p : Part) : List Char := p.source.take p.length

/-- A place in a text. -/
structure Cursor where
  /-- The number of characters before the place. -/
  position : Nat := 0
  /-- The character before the place. -/
  before : Option Char := none
  /-- The characters after the place. -/
  rest : List Char
  /-- What has been remembered on the way, the latest first. -/
  parts : List (Field × Part) := []
  deriving DecidableEq, Repr

namespace Cursor

/-- The place after the next character `c`, which is followed by `rest`. -/
def advance (s : Cursor) (c : Char) (rest : List Char) : Cursor :=
  { s with position := s.position + 1, before := some c, rest }

/-- Remembers the text from `start` to this place. -/
def record (s : Cursor) (field : Field) (start : Cursor) : Cursor :=
  { s with parts := (field, ⟨start.rest, s.position - start.position, s.position⟩) :: s.parts }

/-- The remembered text of a field. -/
def part? (s : Cursor) (field : Field) : Option Part := s.parts.lookup field

/-- Whether the place is between a word and something else. -/
def atBoundary (s : Cursor) : Bool := s.before.any Text.isWord != s.rest.head?.any Text.isWord

/-- Whether the place is at the end of the text or before its last line feed. -/
def atFinish (s : Cursor) : Bool := s.rest == [] || s.rest == ['\n']

end Cursor

/-- What has to follow a match: the place at which everything has matched, if it can be reached. -/
abbrev Follow := Cursor → Option Cursor

/-- Repeats `round` as often as possible, at most once for each member of `rounds`,
before what follows. -/
def repeatMany (round : Follow → Follow) (follow : Follow) : (rounds : List Char) → Follow
  | [], s => follow s
  | _ :: rounds, s =>
    round (fun t => if s.position < t.position then repeatMany round follow rounds t else none)
      s <|> follow s

/-- Repeats `round` as rarely as possible, at most once for each member of `rounds`,
before what follows. -/
def repeatFew (round : Follow → Follow) (follow : Follow) : (rounds : List Char) → Follow
  | [], s => follow s
  | _ :: rounds, s =>
    follow s <|>
      round (fun t => if s.position < t.position then repeatFew round follow rounds t else none) s

/-- The first way to match a pattern at a place such that what follows matches too. -/
def run : Pattern → Follow → Follow
  | empty, follow, s => follow s
  | one k, follow, s =>
    match s.rest with
    | [] => none
    | c :: rest => if k.holds c then follow (s.advance c rest) else none
  | seq first second, follow, s => first.run (second.run follow) s
  | alt first second, follow, s => first.run follow s <|> second.run follow s
  | many body, follow, s => repeatMany body.run follow s.rest s
  | few body, follow, s => repeatFew body.run follow s.rest s
  | remember field body, follow, s => body.run (fun t => follow (t.record field s)) s
  | ahead body, follow, s => if (body.run some s).isSome then follow s else none
  | notAhead body, follow, s => if (body.run some s).isSome then none else follow s
  | boundary, follow, s => if s.atBoundary then follow s else none
  | finish, follow, s => if s.atFinish then follow s else none

/-- The place where the first match of a pattern at the start of a text ends. -/
def match? (p : Pattern) (cs : List Char) : Option Cursor := p.run some { rest := cs }

/-- Whether a pattern matches at the start of a text. -/
def accepts (p : Pattern) (cs : List Char) : Bool := (p.match? cs).isSome

/-! ### Building patterns -/

instance : Append Pattern := ⟨seq⟩

instance : OrElse Pattern := ⟨fun first second => alt first (second ())⟩

/-- One of the given characters. -/
def anyOf (chars : String) : Pattern := one { chars := chars.toList }

/-- Any character but the given ones. -/
def noneOf (chars : String) : Pattern := one { chars := chars.toList, negated := true }

/-- The given characters in sequence. -/
def exactly (cs : List Char) : Pattern :=
  cs.foldr (fun c rest => seq (one { chars := [c] }) rest) empty

/-- The given text. -/
def lit (text : String) : Pattern := exactly text.toList

/-- The first of the given texts that leads to a match. -/
def oneOf : List String → Pattern
  | [] => notAhead empty
  | [text] => lit text
  | text :: rest => alt (lit text) (oneOf rest)

/-- A pattern once or more, as often as possible. -/
def many1 (p : Pattern) : Pattern := seq p (many p)

/-- A pattern or nothing. -/
def opt (p : Pattern) : Pattern := alt p empty

/-- A blank. -/
def blank : Pattern := one { blank := true }

/-- Blanks, or none. -/
def blanks : Pattern := many blank

/-- One blank or more. -/
def gap : Pattern := many1 blank

/-- Any number of the given words, each followed by blanks. -/
def modifiers (words : List String) : Pattern := many (seq (oneOf words) gap)

end Pattern

end SourceMetrics
