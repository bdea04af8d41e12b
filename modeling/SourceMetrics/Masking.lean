import SourceMetrics.Text.Search

/-!
# Masking comments and literals

Before a source text is measured, its comments and the contents of its literals are replaced by
spaces, character for character, so that a keyword inside a string never counts and every remaining
character keeps its line and column. The quotes of a literal stay: a literal still reads as an
operand. A block comment and a literal keep their line feeds and carriage returns; a line comment
ends before the line feed, and before a carriage return in front of it.

A region is decided by the text from its first character on. `maskFrom` walks over the text one
character at a time and holds the masked form of the region it is in, so the result is as long as
the text by construction.

## Main definitions

* `Masking.Rules` — comment markers, quotes and the escape character of a language
* `Masking.region?` — the masked form of the comment or literal that starts here
* `mask` — the masked text
-/

namespace SourceMetrics

namespace Masking

/-- The lexical rules that tell comments and literals from code. -/
structure Rules where
  /-- Markers of comments that run to the end of the line. -/
  lineComments : List (List Char) := [['/', '/']]
  /-- Opening and closing marks of comments that may span lines. -/
  blockComments : List (List Char × List Char) := [(['/', '*'], ['*', '/'])]
  /-- Quotes of literals that end at the end of the line at the latest. -/
  quotes : List (List Char) := [['"'], ['\'']]
  /-- Quotes of literals that may span lines. -/
  multilineQuotes : List (List Char) := []
  /-- The character that makes the next one in a literal lose its meaning. -/
  escape : Option Char := some '\\'
  deriving DecidableEq, Repr

/-- A quote, and whether its literals may span lines. -/
structure Quote where
  mark : List Char
  multiline : Bool
  deriving DecidableEq, Repr

/-- Puts a quote before the first one that is not longer. -/
def insertQuote (q : Quote) : List Quote → List Quote
  | [] => [q]
  | r :: rest =>
    if r.mark.length ≤ q.mark.length then q :: r :: rest else r :: insertQuote q rest

/-- The quotes of the rules, the longest first, so that a tripled quote wins over a single one.
Among equally long ones those that span lines come first. -/
def Rules.delimiters (rules : Rules) : List Quote :=
  (rules.multilineQuotes.map (Quote.mk · true) ++ rules.quotes.map (Quote.mk · false)).foldr
    insertQuote []

/-- A space in place of every character but line feeds and carriage returns. -/
def blankOut (cs : List Char) : List Char :=
  cs.map fun c => if c = '\n' || c = '\r' then c else ' '

/-- The masked form of the block comment that starts here, which runs to its closing mark or to the
end of the text. -/
def blockComment? (marks : List Char × List Char) (cs : List Char) : Option (List Char) :=
  if marks.1.isPrefixOf cs then
    let inner := cs.drop marks.1.length
    let length :=
      match Text.indexOf? marks.2 inner with
      | some k => marks.1.length + k + marks.2.length
      | none => cs.length
    some (blankOut (cs.take length))
  else none

/-- The length of a line comment, which leaves a carriage return before the line feed or the end of
the text alone. -/
def lineCommentLength (cs : List Char) : Nat :=
  let body := cs.takeWhile (· ≠ '\n')
  if body.getLast? = some '\r' then body.length - 1 else body.length

/-- The masked form of the line comment that starts here. -/
def lineComment? (marker cs : List Char) : Option (List Char) :=
  if marker.isPrefixOf cs then some (List.replicate (lineCommentLength cs) ' ') else none

/-- The length of a literal's contents, up to its closing quote, the end of its line if it may not
span lines, or the end of the text. An escaped character is passed over, whatever it is. -/
def contentsLength (quote : Quote) (escape : Option Char) : List Char → Nat
  | [] => 0
  | [c] =>
    if quote.mark.isPrefixOf [c] || (c = '\n' && !quote.multiline) then 0 else 1
  | c :: d :: rest =>
    if quote.mark.isPrefixOf (c :: d :: rest) || (c = '\n' && !quote.multiline) then 0
    else if some c = escape then 2 + contentsLength quote escape rest
    else 1 + contentsLength quote escape (d :: rest)

/-- The masked form of the literal that starts here: its quotes around blanked contents. -/
def literal? (escape : Option Char) (quote : Quote) (cs : List Char) : Option (List Char) :=
  if quote.mark.isPrefixOf cs then
    let inner := cs.drop quote.mark.length
    let length := contentsLength quote escape inner
    let closing := if quote.mark.isPrefixOf (inner.drop length) then quote.mark else []
    some (quote.mark ++ blankOut (inner.take length) ++ closing)
  else none

/-- The masked form of the comment or literal that starts here. Block comments are tried first, then
line comments, then literals. -/
def region? (rules : Rules) (cs : List Char) : Option (List Char) :=
  rules.blockComments.findSome? (blockComment? · cs) <|>
    rules.lineComments.findSome? (lineComment? · cs) <|>
    rules.delimiters.findSome? (literal? rules.escape · cs)

/-- Masks a text of which the first characters, `pending.length` many, have the
masked form `pending`. -/
def maskFrom (rules : Rules) : List Char → List Char → List Char
  | _, [] => []
  | m :: pending, _ :: rest => m :: maskFrom rules pending rest
  | [], c :: rest =>
    match region? rules (c :: rest) with
    | some (m :: pending) => m :: maskFrom rules pending rest
    | _ => c :: maskFrom rules [] rest

end Masking

/-- The text with its comments and the contents of its literals replaced by spaces. -/
def mask (rules : Masking.Rules) (cs : List Char) : List Char := Masking.maskFrom rules [] cs

end SourceMetrics
