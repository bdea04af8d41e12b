import SourceMetrics.Entity.Basic
import SourceMetrics.Json.Basic

/-!
# Scores and entities in reports

Reports list all functions and all classes of a file. A class therefore does not repeat its members:
it refers to them by name and first line.

## Main definitions

* `Score.toJson` — a score with its grade
* `Entity.toJson` — an entity, with references to its members if it is a class
-/

namespace SourceMetrics

/-- A score with its grade. -/
def Score.toJson (s : Score) : Json :=
  .obj
    [("cyclomatic", .nat s.cyclomatic), ("cognitive", .nat s.cognitive),
     ("nesting_depth", .nat s.nestingDepth), ("maintainability", .nat s.maintainability),
     ("grade", .str s.grade.letter)]

namespace Entity

/-- A name and a line, enough to find the entity. -/
def reference (e : Entity) : Json :=
  .obj [("name", .str e.declaration.name), ("line_start", .int e.declaration.lineStart)]

/-- What a class tells about its members. -/
def memberFields (e : Entity) : List (String × Json) :=
  [("methods", .arr ((e.children.filter isFunction).map reference)),
   ("nested_classes", .arr ((e.children.filter isClass).map reference)),
   ("properties", .texts e.declaration.properties)]

/-- An entity in a report. -/
def toJson (e : Entity) : Json :=
  let d := e.declaration
  .obj <|
    [("kind", .str d.kind.label), ("name", .str d.name), ("line_start", .int d.lineStart),
     ("line_end", .int d.lineEnd), ("lines_of_code", .int d.linesOfCode),
     ("parameters", .int d.parameters), ("complexity", (d.score.map Score.toJson).getD .null)] ++
    (if e.isClass then e.memberFields else []) ++
    (if d.closed then [] else [("closed", .bool false)])

end Entity

end SourceMetrics
