import SourceMetrics.Text.Range

/-!
# Blank characters

A character is blank if it is a space of any script, a tab, a line break or one of the four
information separators; the zero-width space and the byte-order mark are not. The class is used
wherever the analysis skips space: around names, between the words of `else if`, and at both ends of
a line.

## Main definitions

* `Text.isBlank` — the class
* `Text.trimStart`, `Text.trim` — a text without its blank ends
* `Text.allBlank` — nothing but blanks
-/

namespace SourceMetrics

namespace Text

/-- The runs of blank characters, ascending. -/
def blankRanges : RangeTable :=
  [(0x09, 0x0D), (0x1C, 0x20), (0x85, 0x85), (0xA0, 0xA0), (0x1680, 0x1680), (0x2000, 0x200A),
   (0x2028, 0x2029), (0x202F, 0x202F), (0x205F, 0x205F), (0x3000, 0x3000)]

/-- A space, tab, line break or separator of any script. -/
def isBlank (c : Char) : Bool := blankRanges.holds c.toNat

/-- The text without the blanks in front. -/
def trimStart (cs : List Char) : List Char := cs.dropWhile isBlank

/-- The text without the blanks behind. -/
def trimEnd (cs : List Char) : List Char := (cs.reverse.dropWhile isBlank).reverse

/-- The text without the blanks at both ends. -/
def trim (cs : List Char) : List Char := trimEnd (trimStart cs)

/-- Whether the text holds nothing but blanks. -/
def allBlank (cs : List Char) : Bool := cs.all isBlank

/-- A string without the blanks at both ends. -/
def trimString (s : String) : String := String.ofList (trim s.toList)

end Text

end SourceMetrics
