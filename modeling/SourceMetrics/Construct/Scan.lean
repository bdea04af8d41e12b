import SourceMetrics.Construct.Token
import SourceMetrics.Text.Line

/-!
# Finding the control constructs of a text

The text is read line by line and token by token. A stack has an entry for each open brace: the kind
of the construct whose body the brace opens, or none. The nesting of a construct is the number of
entries of the first sort.

A construct with a body waits for the brace that opens it. It stops waiting at a semicolon outside
parentheses, at a labelled jump, and at the start of a line that does not begin with a brace, since
its body is then a single statement. When the body of a `do` has ended, a `while` that follows at
once is its tail.

## Main definitions

* `Scan` — the state between two tokens
* `Scan.advance`, `Scan.construct?` — what a token does to the state, and the construct it is
* `constructs` — the constructs of a text in order
-/

namespace SourceMetrics

/-- What is known between two tokens. -/
structure Scan where
  /-- The open braces, innermost first: the construct whose body each opens, if any. -/
  braces : List (Option ConstructKind) := []
  /-- The number of open parentheses. -/
  parens : Nat := 0
  /-- The construct that waits for its body. -/
  waiting : Option ConstructKind := none
  /-- Whether the body of a `do` has just ended. -/
  afterDo : Bool := false
  deriving DecidableEq, Repr

namespace Scan

/-- The number of bodies of constructs around this place. -/
def nesting (s : Scan) : Nat := s.braces.countP Option.isSome

/-- Ends the wait for a body, which turned out to have no braces. -/
def endBody (s : Scan) : Scan :=
  match s.waiting with
  | some kind => { s with waiting := none, afterDo := kind == .doLoop }
  | none => s

/-- Ends the wait for a body unless it is inside parentheses. -/
def endStatement (s : Scan) : Scan := if s.parens = 0 then s.endBody else s

/-- Begins a line. A construct that waits for its body waits on only if the line begins with the
opening brace. -/
def beginLine (s : Scan) (line : List Char) : Scan :=
  if (Text.trimStart line).head? = some '\x7b' then s else s.endStatement

/-- The state after a keyword. -/
def keyword (s : Scan) (kind : ConstructKind) : Scan :=
  if kind == .whileLoop && s.afterDo then { s with afterDo := false }
  else if kind.opensNesting then { s with afterDo := false, waiting := some kind }
  else { s with afterDo := false }

/-- The state after an opening brace, which opens the body that is waited for, if any. -/
def openBrace (s : Scan) : Scan :=
  if s.waiting.isSome && s.parens = 0 then
    { s with afterDo := false, braces := s.waiting :: s.braces, waiting := none }
  else { s with afterDo := false, braces := none :: s.braces }

/-- The state after a closing brace. One that closes nothing is ignored. -/
def closeBrace (s : Scan) : Scan :=
  match s.braces with
  | [] => { s with afterDo := false }
  | closed :: rest => { s with braces := rest, afterDo := closed == some .doLoop }

/-- The state after a token. -/
def advance (s : Scan) : Token → Scan
  | .keyword kind => s.keyword kind
  | .jump => s.endStatement
  | .logical _ => s
  | .question => s
  | .openParen => { s with parens := s.parens + 1 }
  | .closeParen => { s with parens := s.parens - 1 }
  | .semicolon => s.endStatement
  | .openBrace => s.openBrace
  | .closeBrace => s.closeBrace

/-- The construct that a token is, on the given line. A question mark is one if `isTernary`
holds. -/
def construct? (s : Scan) (line : Nat) (isTernary : Bool) : Token → Option Construct
  | .keyword kind => some ⟨kind, line, s.nesting, kind == .whileLoop && s.afterDo⟩
  | .jump => some ⟨.labeledJump, line, s.nesting, false⟩
  | .logical kind => some ⟨kind, line, s.nesting, false⟩
  | .question => if isTernary then some ⟨.ternary, line, s.nesting, false⟩ else none
  | .openParen | .closeParen | .semicolon | .openBrace | .closeBrace => none

/-- Reads the tokens of a line that starts at `offset`, where `marks` are the positions of the
conditional operators: the constructs found, and the state after the line. -/
def tokens (marks : List Nat) (line offset : Nat) (s : Scan) :
    List (Nat × Token) → List Construct × Scan
  | [] => ([], s)
  | (column, token) :: rest =>
    let found := (s.construct? line (marks.contains (offset + column)) token).toList
    let (more, last) := tokens marks line offset (s.advance token) rest
    (found ++ more, last)

/-- Reads lines, of which the first has number `number` and starts at `offset`. -/
def lines (marks : List Nat) (number offset : Nat) (s : Scan) : List Text.Line → List Construct
  | [] => []
  | line :: rest =>
    let (found, after) := tokens marks number offset (s.beginLine line.body) (Token.scan line.body)
    found ++ lines marks (number + 1) (offset + line.whole.length) after rest

end Scan

/-- The control constructs of a masked text, in order. -/
def constructs (cs : List Char) : List Construct :=
  Scan.lines (ternaries cs) 1 0 {} (Text.Line.split cs)

end SourceMetrics
