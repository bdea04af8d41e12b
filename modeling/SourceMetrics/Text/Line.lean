/-!
# Lines of a text

A text is cut into lines at every line break: line feed, carriage return, the two together as one
break, vertical tab, form feed, the file, group and record separators, next line, and the line and
paragraph separators. A final break ends the last line and does not start an empty one.

`Line.split` keeps each break beside the line that it ends, so joining the pieces gives the text
back; `lines` drops the breaks.

## Main definitions

* `Text.Line` — a line and the break that ends it
* `Text.Line.split`, `Text.lines` — the lines of a text, with and without their breaks
-/

namespace SourceMetrics

namespace Text

/-- A character that ends a line. -/
def isLineBreak (c : Char) : Bool :=
  c == '\n' || c == '\r' || c == '\x0b' || c == '\x0c' || c == '\x1c' || c == '\x1d' ||
    c == '\x1e' || c == '\u0085' || c == '\u2028' || c == '\u2029'

/-- A line of a text: its characters, and the break that ends it, empty at the end of the text. -/
structure Line where
  body : List Char
  ending : List Char
  deriving DecidableEq, Repr

namespace Line

/-- The line with its break. -/
def whole (l : Line) : List Char := l.body ++ l.ending

/-- Puts a character that is no line break in front of the first line. -/
def prepend (c : Char) : List Line → List Line
  | [] => [⟨[c], []⟩]
  | l :: rest => ⟨c :: l.body, l.ending⟩ :: rest

/-- The lines of a text with their breaks. -/
def split : List Char → List Line
  | [] => []
  | [c] => if isLineBreak c then [⟨[], [c]⟩] else [⟨[c], []⟩]
  | c :: next :: rest =>
    if c = '\r' ∧ next = '\n' then ⟨[], [c, next]⟩ :: split rest
    else if isLineBreak c then ⟨[], [c]⟩ :: split (next :: rest)
    else prepend c (split (next :: rest))

end Line

/-- The lines of a text without their breaks. -/
def lines (cs : List Char) : List (List Char) := (Line.split cs).map Line.body

end Text

end SourceMetrics
