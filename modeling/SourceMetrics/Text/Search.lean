/-!
# Searching in a text

Where a given piece of text first occurs, how often it occurs without overlap, and how a text falls
apart at a separator. A text of no characters occurs everywhere, once more often than there are
characters.

## Main definitions

* `Text.indexOf?` — the first occurrence
* `Text.occurs`, `Text.countOccurrences` — whether and how often
* `Text.splitOn` — the pieces between separators
-/

namespace SourceMetrics

namespace Text

/-- The position of the first occurrence of `piece`. -/
def indexOf? (piece : List Char) : List Char → Option Nat
  | [] => if piece.isEmpty then some 0 else none
  | c :: rest =>
    if piece.isPrefixOf (c :: rest) then some 0 else (indexOf? piece rest).map (· + 1)

/-- Whether `piece` occurs. -/
def occurs (piece text : List Char) : Bool := (indexOf? piece text).isSome

/-- The number of occurrences of a non-empty piece, after `skip` characters, without overlap. -/
def countFrom (piece : List Char) : Nat → List Char → Nat
  | _, [] => 0
  | skip + 1, _ :: rest => countFrom piece skip rest
  | 0, c :: rest =>
    if piece.isPrefixOf (c :: rest) then 1 + countFrom piece (piece.length - 1) rest
    else countFrom piece 0 rest

/-- The number of occurrences of `piece` without overlap. -/
def countOccurrences (piece text : List Char) : Nat :=
  if piece.isEmpty then text.length + 1 else countFrom piece 0 text

/-- The pieces of a text between separators; there is one more piece than separators. -/
def splitOn (separator : Char) : List Char → List (List Char)
  | [] => [[]]
  | c :: rest =>
    if c = separator then [] :: splitOn separator rest
    else
      match splitOn separator rest with
      | [] => [[c]]
      | piece :: pieces => (c :: piece) :: pieces

end Text

end SourceMetrics
