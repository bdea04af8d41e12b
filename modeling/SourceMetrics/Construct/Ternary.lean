import SourceMetrics.Text.Blank

/-!
# Conditional operators

A question mark is a conditional operator if it stands alone, which tells it from `??`, `?.`, `?:`
and wildcards, and if a colon answers it in the same expression. The search for the colon goes
forward at the bracket depth of the question mark. A semicolon, a comma or a bracket that closes
more than was opened ends the expression, and so does a brace that opens neither an object nor the
body of an arrow function. Question marks on the way are answered first, and a double colon answers
nothing. That keeps nullable types and optional parameters apart from conditionals.

Whether a question mark is answered depends only on the text behind it.

## Main definitions

* `Ternary.standsAlone` — the neighbours of the question mark allow an operator
* `Ternary.answer?` — how far behind the question mark its colon stands
* `ternaries` — the positions of all conditional operators of a text
-/

namespace SourceMetrics

namespace Ternary

/-- Whether a question mark between these neighbours can be a conditional operator. -/
def standsAlone (before after : Option Char) : Bool :=
  !(before == some '?' || before == some '<') &&
    !(after == some '?' || after == some '.' || after == some ':' || after == some '>')

/-- Where the search for a colon stands. -/
structure Search where
  /-- Question marks that wait for their colon. -/
  waiting : Nat
  /-- Brackets open since the question mark. -/
  depth : Nat
  /-- The last character that is not blank. -/
  last : Char
  /-- Whether the last two characters that are not blank form an arrow. -/
  arrow : Bool
  /-- The character just passed. -/
  before : Char
  deriving DecidableEq, Repr

/-- The search right behind a question mark. -/
def Search.start : Search := ⟨1, 0, '?', false, '?'⟩

/-- Passes a character, and remembers it unless it is blank. -/
def Search.pass (s : Search) (c : Char) : Search :=
  if Text.isBlank c then { s with before := c }
  else { s with before := c, last := c, arrow := s.last == '=' && c == '>' }

/-- The distance to the colon that leaves no question mark waiting, if the expression holds one. -/
def Search.run (s : Search) : List Char → Option Nat
  | [] => none
  | ':' :: ':' :: rest =>
    if s.depth = 0 then
      (Search.run { s with before := ':', last := ':', arrow := false } rest).map (· + 2)
    else ((s.pass ':').run (':' :: rest)).map (· + 1)
  | c :: rest =>
    if c = '(' || c = '[' then (({ s with depth := s.depth + 1 }).pass c |>.run rest).map (· + 1)
    else if c = '\x7b' then
      if s.depth = 0 && !(s.last == '?' || s.last == ':') && !s.arrow then none
      else (({ s with depth := s.depth + 1 }).pass c |>.run rest).map (· + 1)
    else if c = ')' || c = ']' || c = '\x7d' then
      if s.depth = 0 then none
      else (({ s with depth := s.depth - 1 }).pass c |>.run rest).map (· + 1)
    else if s.depth ≠ 0 then ((s.pass c).run rest).map (· + 1)
    else if c = ';' || c = ',' then none
    else if c = '?' && standsAlone (some s.before) rest.head? then
      (({ s with waiting := s.waiting + 1 }).pass c |>.run rest).map (· + 1)
    else if c = ':' then
      if s.waiting ≤ 1 then some 0
      else (({ s with waiting := s.waiting - 1 }).pass c |>.run rest).map (· + 1)
    else ((s.pass c).run rest).map (· + 1)

/-- How many characters stand between a question mark and the colon that answers it, given the text
behind the question mark. -/
def answer? (rest : List Char) : Option Nat := Search.start.run rest

/-- The positions of the conditional operators in a text that starts at position `index` and has
`before` in front of it. -/
def positionsFrom (before : Option Char) (index : Nat) : List Char → List Nat
  | [] => []
  | c :: rest =>
    if c = '?' && standsAlone before rest.head? && (answer? rest).isSome then
      index :: positionsFrom (some c) (index + 1) rest
    else positionsFrom (some c) (index + 1) rest

end Ternary

/-- The positions of the conditional operators of a text, in ascending order. -/
def ternaries (cs : List Char) : List Nat := Ternary.positionsFrom none 0 cs

end SourceMetrics
