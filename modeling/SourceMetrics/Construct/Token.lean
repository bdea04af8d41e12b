import SourceMetrics.Construct.Basic
import SourceMetrics.Construct.Ternary
import SourceMetrics.Text.Alphanumeric

/-!
# Tokens of a line

What matters of a line of masked text for control flow: keywords, jumps to a label, logical
operators, question marks that stand alone, and the brackets and semicolons that delimit bodies. All
other text is passed over.

A keyword is a whole word that does not follow a hash, a dot or a dollar sign, so that directives
and members are left out; `else` and a following `if` are one token. A jump is `break` or `continue`
with a label and its semicolon, all on the same line.

## Main definitions

* `Token` — the tokens
* `Token.at?` — the token that starts here, with its length
* `Token.scan` — the tokens of a line with their columns
-/

namespace SourceMetrics

/-- The parts of a line that matter for control flow. -/
inductive Token where
  | keyword (kind : ConstructKind)
  | jump
  | logical (kind : ConstructKind)
  | question
  | openParen
  | closeParen
  | semicolon
  | openBrace
  | closeBrace
  deriving DecidableEq, Repr

namespace Token

/-- The constructs that a single keyword starts. -/
def keywords : List (List Char × ConstructKind) :=
  [("else".toList, .elseBranch), ("if".toList, .ifBranch), ("foreach".toList, .forLoop),
   ("for".toList, .forLoop), ("while".toList, .whileLoop), ("do".toList, .doLoop),
   ("switch".toList, .switch), ("case".toList, .caseLabel), ("catch".toList, .catchClause)]

/-- The keywords of jumps that may name a label. -/
def jumps : List (List Char) := ["break".toList, "continue".toList]

/-- Whether a word may start behind the given character. -/
def startsWord (before : Option Char) : Bool :=
  match before with
  | some c => !(c == '.' || c == '$' || Text.isWord c)
  | none => true

/-- A character that may start a label. -/
def isLabelStart (c : Char) : Bool :=
  ('A' ≤ c && c ≤ 'Z') || ('a' ≤ c && c ≤ 'z') || c == '_' || c == '$'

/-- A character of a label. -/
def isLabelChar (c : Char) : Bool := Text.isWord c || c == '$'

/-- The length of the `if` behind an `else`, with the blanks before it. -/
def elseIfLength? (afterElse : List Char) : Option Nat :=
  let blanks := afterElse.takeWhile Text.isBlank
  let next := (afterElse.drop blanks.length).takeWhile Text.isWord
  if !blanks.isEmpty && next == ['i', 'f'] then some (blanks.length + 2) else none

/-- The length of a label and its semicolon behind the keyword of a jump. -/
def labelLength? (afterJump : List Char) : Option Nat :=
  let blanks := afterJump.takeWhile Text.isBlank
  let label := (afterJump.drop blanks.length).takeWhile isLabelChar
  let gap := (afterJump.drop (blanks.length + label.length)).takeWhile Text.isBlank
  let length := blanks.length + label.length + gap.length
  if !blanks.isEmpty && label.head?.any isLabelStart &&
      (afterJump.drop length).head? == some ';' then
    some (length + 1)
  else none

/-- The token made of words that starts here. -/
def word? (before : Option Char) (cs : List Char) : Option (Token × Nat) :=
  let word := cs.takeWhile Text.isWord
  let rest := cs.drop word.length
  match keywords.lookup word with
  | some kind =>
    if before == some '#' then none
    else
      match kind, elseIfLength? rest with
      | .elseBranch, some length => some (.keyword .elseIf, word.length + length)
      | _, _ => some (.keyword kind, word.length)
  | none =>
    if jumps.contains word then (labelLength? rest).map fun length => (.jump, word.length + length)
    else none

/-- The token that starts here, behind the character `before`, with its length. -/
def at? (before : Option Char) (cs : List Char) : Option (Token × Nat) :=
  match cs with
  | [] => none
  | '&' :: '&' :: _ => some (.logical .logicalAnd, 2)
  | '|' :: '|' :: _ => some (.logical .logicalOr, 2)
  | c :: rest =>
    if c = '?' then if Ternary.standsAlone before rest.head? then some (.question, 1) else none
    else if c = '(' then some (.openParen, 1)
    else if c = ')' then some (.closeParen, 1)
    else if c = ';' then some (.semicolon, 1)
    else if c = '\x7b' then some (.openBrace, 1)
    else if c = '\x7d' then some (.closeBrace, 1)
    else if Text.isWord c && startsWord before then word? before cs
    else none

/-- The tokens of the rest of a line from `column` on, with their columns. The first `skip`
characters belong to a token already found. -/
def scanFrom (skip column : Nat) (before : Option Char) : List Char → List (Nat × Token)
  | [] => []
  | c :: rest =>
    match skip with
    | skip + 1 => scanFrom skip (column + 1) (some c) rest
    | 0 =>
      match at? before (c :: rest) with
      | some (token, length) => (column, token) :: scanFrom (length - 1) (column + 1) (some c) rest
      | none => scanFrom 0 (column + 1) (some c) rest

/-- The tokens of a line with their columns. -/
def scan (line : List Char) : List (Nat × Token) := scanFrom 0 0 none line

end Token

end SourceMetrics
