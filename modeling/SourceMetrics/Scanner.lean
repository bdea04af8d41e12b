import SourceMetrics.Entity.Span
import SourceMetrics.Outline.Scan
import SourceMetrics.Score.Measure

/-!
# Scanners

A scanner analyses sources of one language: it masks a source, outlines it and scores every entity
and the whole file. Entities are scored on the masked text, the file on the masked text too but with
the number of lines of the source as it is.

## Main definitions

* `Scanner` — the dialect of a language with the names and extensions it goes by
* `Analysis` — the outline of a source with all scores
* `Scanner.analyze` — the analysis of a source
* `Scanning` — what any scanners make of sources
-/

namespace SourceMetrics

/-- What analyses sources of a language. -/
structure Scanner where
  /-- What the scanner is called. -/
  name : String
  language : String
  extensions : List String := []
  aliases : List String := []
  dialect : Dialect := {}
  /-- The complaint of a scanner that fails on every source. -/
  failure : Option String := none
  deriving DecidableEq, Repr

/-- The analysis of a source. -/
structure Analysis where
  masked : List Char
  entities : List Entity
  warnings : List String
  score : Score

/-- The score of a declaration, from the lines of its masked source. The braces of its own body do
not count as nesting. -/
def Declaration.measured (rules : CountingRules) (lines : List (List Char)) (d : Declaration) :
    Declaration :=
  { d with
    score := some (measure rules (d.spanText lines) d.linesOfCode (if d.hasBody then 1 else 0)) }

/-- The analysis of a source in a dialect. -/
def Dialect.analyze (d : Dialect) (rules : CountingRules) (source : List Char) : Analysis :=
  let masked := mask d.rules source
  let lines := Text.lines masked
  let outline := d.outline masked
  { masked
    entities := Entity.mapAll (·.measured rules lines) outline.entities
    warnings := outline.warnings
    score := measure rules masked (Text.lines source).length 0 }

/-- The analysis of a source, or the complaint of the scanner. -/
def Scanner.analyze (s : Scanner) (rules : CountingRules) (source : List Char) :
    Except String Analysis :=
  match s.failure with
  | some complaint => .error complaint
  | none => .ok (s.dialect.analyze rules source)

/-- What scanners make of sources under counting rules: an analysis or a complaint.
`Scanner.analyze` is what scanners make of them that go by their dialect. -/
abbrev Scanning := Scanner → CountingRules → List Char → Except String Analysis

end SourceMetrics
