import SourceMetrics.Entity.Basic
import SourceMetrics.Json.Basic

/-!
# The most complex entity

A reference points to an entity of a file. References are ranked by complexity; among equals the one
in the file that was processed earlier comes first, then the one on the earlier line, then the one
with the smaller name.

## Main definitions

* `Reference`, `Reference.outranks` — references and their ranking
* `Reference.pick` — the better of two
* `Reference.best` — the best of a list of entities
-/

namespace SourceMetrics

/-- An entity of some file. -/
structure Reference where
  file : String
  name : String
  lineStart : Int
  cyclomatic : Int
  /-- The position of the file among those processed. -/
  order : Int := 0
  deriving DecidableEq, Repr

namespace Reference

/-- The reference to an entity; without a score its complexity is one. -/
def ofEntity (file : String) (order : Int) (e : Entity) : Reference :=
  { file, name := e.declaration.name, lineStart := e.declaration.lineStart,
    cyclomatic := (e.declaration.score.map fun s => (s.cyclomatic : Int)).getD 1, order }

/-- Whether one reference comes before another by order, line and name. -/
def precedes (a b : Reference) : Bool :=
  if a.order = b.order then
    if a.lineStart = b.lineStart then a.name < b.name else a.lineStart < b.lineStart
  else a.order < b.order

/-- Whether one reference ranks above another. -/
def outranks (a b : Reference) : Bool :=
  if a.cyclomatic = b.cyclomatic then a.precedes b else b.cyclomatic < a.cyclomatic

/-- The better of two references; the second if neither outranks the other. -/
def pick : Option Reference → Option Reference → Option Reference
  | none, b => b
  | some a, none => some a
  | some a, some b => if a.outranks b then some a else some b

/-- The best of the references to some entities. -/
def best (file : String) (order : Int) (entities : List Entity) : Option Reference :=
  entities.foldl (fun found e => pick found (some (ofEntity file order e))) none

/-- A reference in a report. -/
def toJson (r : Reference) : Json :=
  .obj
    [("file", .str r.file), ("name", .str r.name), ("line_start", .int r.lineStart),
     ("cyclomatic", .int r.cyclomatic)]

end Reference

end SourceMetrics
