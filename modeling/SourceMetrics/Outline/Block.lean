import SourceMetrics.Text.Blank

/-!
# Parameter lists, bodies and blocks

How far a declaration reaches. All functions here work on the lines from the one on which the
declaration starts to the last line that it may use; a place is a line, counted from zero in that
list, and a column.

## Main definitions

* `Place` — a line and a column
* `parenSpan` — the text of a parameter list and the place behind it
* `findBody?` — the brace that opens the body of a declaration
* `blockEnd?` — the place behind the brace that ends a block
-/

namespace SourceMetrics

/-- A place in a list of lines. -/
structure Place where
  line : Nat
  column : Nat
  deriving DecidableEq, Repr

/-- How reading a line for a closing bracket ends: behind the bracket that closes, or with brackets
still open. Brackets that close nothing count below zero. -/
inductive Closing where
  | closed (column : Nat)
  | unclosed (depth : Int)
  deriving DecidableEq, Repr

/-! ### Parameter lists -/

/-- Reads a parameter list in the rest of a line from `column` on, with `depth` parentheses open:
its text, without the outermost parentheses, and how the line ends. -/
def parenLine (depth : Int) (column : Nat) : List Char → List Char × Closing
  | [] => ([], .unclosed depth)
  | c :: rest =>
    if c = '(' then
      let (text, closing) := parenLine (depth + 1) (column + 1) rest
      (if depth = 0 then text else c :: text, closing)
    else if c = ')' && depth = 1 then ([], .closed (column + 1))
    else
      let (text, closing) := parenLine (if c = ')' then depth - 1 else depth) (column + 1) rest
      (c :: text, closing)

/-- Reads a parameter list over lines, the first of which has number `line`. An unclosed list runs
to the end of the last line. -/
def parenLines (depth : Int) (line column : Nat) : List (List Char) → List Char × Place
  | [] => ([], ⟨line, column⟩)
  | cs :: rest =>
    match parenLine depth column cs with
    | (text, .closed stop) => (text, ⟨line, stop⟩)
    | (text, .unclosed inner) =>
      match rest with
      | [] => (text ++ ['\n'], ⟨line, column + cs.length⟩)
      | next :: more =>
        let (tail, place) := parenLines inner (line + 1) 0 (next :: more)
        (text ++ '\n' :: tail, place)

/-- The text of the parameter list whose opening parenthesis stands at `column` of the first line,
and the place behind it. -/
def parenSpan (lines : List (List Char)) (column : Nat) : List Char × Place :=
  match lines with
  | [] => ([], ⟨0, column⟩)
  | first :: rest => parenLines 0 0 column (first.drop column :: rest)

/-! ### Bodies -/

/-- What decides, on the rest of a header line, whether a body follows. -/
inductive Lead where
  /-- A brace at the given column opens the body. -/
  | brace (column : Nat)
  /-- A semicolon ends the declaration. -/
  | ended
  /-- Neither occurs. -/
  | undecided
  deriving DecidableEq, Repr

/-- The first brace or semicolon in the rest of a line from `column` on. -/
def leadOf (column : Nat) : List Char → Lead
  | [] => .undecided
  | c :: rest =>
    if c = '\x7b' then .brace column
    else if c = ';' then .ended
    else leadOf (column + 1) rest

/-- The column of the brace with which a line begins, behind blanks. -/
def leadingBrace? (line : List Char) : Option Nat :=
  let indent := (line.takeWhile Text.isBlank).length
  if (line.drop indent).head? = some '\x7b' then some indent else none

/-- The brace that opens the body of a declaration whose header ends at a place. If the rest of the
line does not decide, the next line may begin with the brace. -/
def findBody? (lines : List (List Char)) (header : Place) : Option Place :=
  match leadOf header.column ((lines.getD header.line []).drop header.column) with
  | .brace column => some ⟨header.line, column⟩
  | .ended => none
  | .undecided =>
    match lines[header.line + 1]? with
    | some next => (leadingBrace? next).map (⟨header.line + 1, ·⟩)
    | none => none

/-! ### Blocks -/

/-- Reads the rest of a line from `column` on for the brace that closes a block, with
`depth` braces open. -/
def closeLine (depth : Int) (column : Nat) : List Char → Closing
  | [] => .unclosed depth
  | c :: rest =>
    if c = '\x7b' then closeLine (depth + 1) (column + 1) rest
    else if c = '\x7d' then
      if depth = 1 then .closed (column + 1) else closeLine (depth - 1) (column + 1) rest
    else closeLine depth (column + 1) rest

/-- Reads lines for the brace that closes a block; the first has number `line` and is read from
`column` on. -/
def closeLines (depth : Int) (line column : Nat) : List (List Char) → Option Place
  | [] => none
  | cs :: rest =>
    match closeLine depth column cs with
    | .closed stop => some ⟨line, stop⟩
    | .unclosed inner => closeLines inner (line + 1) 0 rest

/-- The place behind the brace that ends the block whose opening brace stands at a place. -/
def blockEnd? (lines : List (List Char)) (start : Place) : Option Place :=
  match lines.drop start.line with
  | [] => none
  | first :: rest => closeLines 0 start.line start.column (first.drop start.column :: rest)

/-- Opening braces less closing braces. -/
def braceBalance (cs : List Char) : Int := (cs.count '\x7b' : Int) - cs.count '\x7d'

end SourceMetrics
