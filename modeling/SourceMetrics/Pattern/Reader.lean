import SourceMetrics.Pattern

/-!
# Patterns written as texts

A pattern can be written down. Characters stand for themselves, a dot for any character but a line
feed, brackets for one of several characters, a dollar for the end and `\b` for the boundary of a
word. Parentheses make a group, a bar divides alternatives, and a star, a plus or a question mark
repeats what stands in front of it. A line is searched for the pattern, except that an alternative
with a caret in front has to match at the start.

A text is read in one pass, one token after another. Open groups wait on a stack with what was read
of them, and the first fault from the left ends the reading.

## What is not read

Repetitions that are counted, lazy or possessive, groups with a question mark behind the
parenthesis, carets inside groups, references back and escapes by number are no part of the
notation. A text that uses one of them is refused as `Fault.Cause.foreign`.

## Main definitions

* `Pattern.Fault` — what is wrong with a text, and where
* `Pattern.Reading`, `Pattern.Reading.step` — what has been read, and the reading of one token
* `Pattern.read` — the pattern of a text
* `Pattern.compile` — the lines in which a pattern is found
-/

namespace SourceMetrics

namespace Pattern

/-! ### Faults -/

/-- What can be wrong with the text of a pattern. -/
inductive Fault.Cause where
  | openGroup
  | unbalanced
  | openBracket
  | reversedRange (first last : Char)
  | nothingToRepeat
  | multipleRepeat
  | badEscape (c : Char)
  /-- A backslash at the end. -/
  | cutEscape
  /-- Something that is no part of the notation. -/
  | foreign
  deriving DecidableEq, Repr

/-- The description of a cause. -/
def Fault.Cause.text : Fault.Cause → String
  | openGroup => "missing ), unterminated subpattern"
  | unbalanced => "unbalanced parenthesis"
  | openBracket => "unterminated character set"
  | reversedRange first last => s!"bad character range {first}-{last}"
  | nothingToRepeat => "nothing to repeat"
  | multipleRepeat => "multiple repeat"
  | badEscape c => "bad escape \\" ++ c.toString
  | cutEscape => "bad escape (end of pattern)"
  | foreign => "unsupported construct"

/-- What is wrong with the text of a pattern, and where. -/
structure Fault where
  cause : Fault.Cause
  position : Nat
  deriving DecidableEq, Repr

/-- The message of a fault. -/
def Fault.message (f : Fault) : String := s!"{f.cause.text} at position {f.position}"

/-! ### Tokens -/

/-- A character, a character behind a backslash, or a backslash with nothing behind it. -/
inductive Token where
  | plain (c : Char)
  | escaped (c : Char)
  | cut
  deriving DecidableEq, Repr

/-- The tokens of a text that begins at a position, with their positions. The text is read one token
ahead, so a backslash at the end is found before the token in front of it counts, unless that is a
parenthesis that may close nothing. -/
def tokensFrom : Nat → List Char → List (Nat × Token)
  | _, [] => []
  | position, ['\\'] => [(position, .cut)]
  | position, ['\\', c] => [(position, .escaped c)]
  | position, [')', '\\'] => [(position, .plain ')'), (position + 1, .cut)]
  | position, [_, '\\'] => [(position + 1, .cut)]
  | position, ['\\', _, '\\'] => [(position + 2, .cut)]
  | position, '\\' :: c :: rest => (position, .escaped c) :: tokensFrom (position + 2) rest
  | position, c :: rest => (position, .plain c) :: tokensFrom (position + 1) rest

/-- Letters and digits that have a meaning behind a backslash which is no part of the notation. -/
def foreignEscapes : List Char := "ABDNUZadfnrtuvx0123456789".toList

/-! ### What has been read -/

/-- Whether a piece can be repeated. -/
inductive Piece.Kind where
  /-- It can. -/
  | item
  /-- It matches a place only and cannot be repeated. -/
  | place
  /-- It is repeated already. -/
  | repeated
  deriving DecidableEq, Repr

/-- A piece of an alternative. -/
structure Piece where
  pattern : Pattern
  kind : Piece.Kind := .item
  deriving DecidableEq, Repr

/-- A group, or the whole text, up to the place that was reached. -/
structure Level where
  /-- Where the group begins. -/
  start : Nat := 0
  /-- The alternatives that are complete, the last first. -/
  choices : List Pattern := []
  /-- The pieces of the current alternative, the last first. -/
  pieces : List Piece := []
  deriving DecidableEq, Repr

namespace Level

/-- The current alternative. -/
def alternative (l : Level) : Pattern :=
  l.pieces.foldl (fun rest piece => seq piece.pattern rest) empty

/-- The pattern of all alternatives. -/
def pattern (l : Level) : Pattern :=
  l.choices.foldl (fun rest choice => alt choice rest) l.alternative

/-- The level with one more piece. -/
def add (l : Level) (piece : Piece) : Level := { l with pieces := piece :: l.pieces }

/-- The level with its last piece repeated as the mark `c` says. -/
def repeated (l : Level) (position : Nat) (c : Char) : Except Fault Level :=
  let times : Pattern → Pattern := if c = '*' then many else if c = '+' then many1 else opt
  match l.pieces with
  | ⟨p, .item⟩ :: rest => .ok { l with pieces := ⟨times p, .repeated⟩ :: rest }
  | ⟨_, .place⟩ :: _ => .error ⟨.nothingToRepeat, position⟩
  | ⟨_, .repeated⟩ :: _ => .error ⟨if c = '*' then .multipleRepeat else .foreign, position⟩
  | [] =>
    let extended := c = '?' && position = l.start + 1
    .error ⟨if extended then .foreign else .nothingToRepeat, position⟩

end Level

/-- A bracket up to the place that was reached. -/
structure Bracket where
  /-- Where the bracket begins. -/
  start : Nat
  members : CharClass := {}
  /-- The last character, as long as it may begin a range, with its position. -/
  first? : Option (Nat × Char) := none
  /-- Whether a hyphen follows that character. -/
  hyphen : Bool := false
  deriving DecidableEq, Repr

namespace Bracket

/-- The members, with the last character and the hyphen among them. -/
def closed (b : Bracket) : CharClass :=
  let last := b.first?.toList.map Prod.snd ++ if b.hyphen then ['-'] else []
  { b.members with chars := last ++ b.members.chars }

/-- Whether nothing is listed so far. -/
def isEmpty (b : Bracket) : Bool := b.closed == { negated := b.members.negated }

/-- The bracket with one more character, which may end a range. -/
def add (b : Bracket) (position : Nat) (c : Char) : Except Fault Bracket :=
  match b.first?, b.hyphen with
  | some (origin, first), true =>
    if c < first then .error ⟨.reversedRange first c, origin⟩
    else .ok { b with
      members := { b.members with ranges := (first, c) :: b.members.ranges }
      first? := none, hyphen := false }
  | _, _ => .ok { b with members := b.closed, first? := some (position, c), hyphen := false }

end Bracket

/-- What has been read of a text. -/
structure Reading where
  /-- The innermost group that is open, or the whole text. -/
  level : Level
  /-- The levels around it, the innermost first. -/
  outer : List Level := []
  /-- The bracket that is open. -/
  bracket : Option Bracket := none
  deriving DecidableEq, Repr

namespace Reading

/-- What stands in front of an alternative of the whole text without a caret. -/
def anywhere : Piece := ⟨few (noneOf ""), .place⟩

/-- Nothing has been read. -/
def start : Reading := { level := { pieces := [anywhere] } }

/-- Reads a token inside a bracket. -/
def stepInside (s : Reading) (b : Bracket) (position : Nat) : Token → Except Fault Reading
  | .plain c =>
    if c = ']' && !b.isEmpty then
      .ok { s with level := s.level.add ⟨one b.closed, .item⟩, bracket := none }
    else if c = '^' && position = b.start + 1 then
      .ok { s with bracket := some { b with members := { negated := true } } }
    else if c = '-' && b.first?.isSome && !b.hyphen then
      .ok { s with bracket := some { b with hyphen := true } }
    else (b.add position c).map fun next => { s with bracket := some next }
  | .escaped c =>
    if Text.isWord c then .error ⟨.foreign, position⟩
    else (b.add position c).map fun next => { s with bracket := some next }
  | .cut => .error ⟨.cutEscape, position⟩

/-- Reads a character that stands outside brackets. -/
def stepPlain (s : Reading) (position : Nat) (c : Char) : Except Fault Reading :=
  if c = '(' then .ok { s with level := { start := position }, outer := s.level :: s.outer }
  else if c = ')' then
    match s.outer with
    | [] => .error ⟨.unbalanced, position⟩
    | level :: outer => .ok { s with level := level.add ⟨s.level.pattern, .item⟩, outer }
  else if c = '|' then
    let pieces := if s.outer.isEmpty then [anywhere] else []
    .ok { s with
      level := { s.level with choices := s.level.alternative :: s.level.choices, pieces } }
  else if c = '^' then
    if s.outer.isEmpty && s.level.pieces.length = 1 then
      .ok { s with level := { s.level with pieces := [⟨empty, .place⟩] } }
    else .error ⟨.foreign, position⟩
  else if c = '*' || c = '+' || c = '?' then
    (s.level.repeated position c).map fun level => { s with level }
  else if c = '[' then .ok { s with bracket := some { start := position } }
  else if c = '\x7b' then .error ⟨.foreign, position⟩
  else if c = '.' then .ok { s with level := s.level.add ⟨noneOf "\n", .item⟩ }
  else if c = '$' then .ok { s with level := s.level.add ⟨finish, .place⟩ }
  else .ok { s with level := s.level.add ⟨one { chars := [c] }, .item⟩ }

/-- Reads a character behind a backslash that stands outside brackets. -/
def stepEscaped (s : Reading) (position : Nat) (c : Char) : Except Fault Reading :=
  if c = 'b' then .ok { s with level := s.level.add ⟨boundary, .place⟩ }
  else if c = 'w' || c = 'W' then
    .ok { s with level := s.level.add ⟨one { word := true, negated := c == 'W' }, .item⟩ }
  else if c = 's' || c = 'S' then
    .ok { s with level := s.level.add ⟨one { blank := true, negated := c == 'S' }, .item⟩ }
  else if foreignEscapes.contains c then .error ⟨.foreign, position⟩
  else if c.isAlpha then .error ⟨.badEscape c, position⟩
  else .ok { s with level := s.level.add ⟨one { chars := [c] }, .item⟩ }

/-- Reads a token. -/
def step (s : Reading) (token : Nat × Token) : Except Fault Reading :=
  match s.bracket, token.2 with
  | some b, _ => s.stepInside b token.1 token.2
  | none, .plain c => s.stepPlain token.1 c
  | none, .escaped c => s.stepEscaped token.1 c
  | none, .cut => .error ⟨.cutEscape, token.1⟩

/-- The pattern, if nothing is left open. -/
def done (s : Reading) : Except Fault Pattern :=
  match s.bracket, s.outer with
  | some b, _ => .error ⟨.openBracket, b.start⟩
  | none, _ :: _ => .error ⟨.openGroup, s.level.start⟩
  | none, [] => .ok s.level.pattern

end Reading

/-! ### Whole texts -/

/-- The pattern that a text denotes. It matches at the start of the lines that it is found in. -/
def read (text : String) : Except Fault Pattern := do
  (← (tokensFrom 0 text.toList).foldlM Reading.step Reading.start).done

/-- The lines in which the pattern of a text is found, or what is wrong with the text. -/
def compile (text : String) : Except String (List Char → Bool) :=
  match read text with
  | .ok p => .ok p.accepts
  | .error fault => .error fault.message

end Pattern

end SourceMetrics
