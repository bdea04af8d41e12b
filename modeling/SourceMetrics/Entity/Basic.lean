import SourceMetrics.Score.Basic

/-!
# Declarations and their trees

An outline of a source is a forest of entities. An entity is a declaration of a function or a class
with the entities declared inside it. Lines are counted from one and a declaration includes its last
line; columns narrow it on its first and last line.

## Main definitions

* `EntityKind`, `Declaration` — what is declared where
* `Entity` — a declaration with what is declared inside it
* `Entity.preorder`, `preorderAll` — all entities, parents first
-/

namespace SourceMetrics

/-- What is declared. -/
inductive EntityKind where
  | function
  | classType
  deriving DecidableEq, Repr

/-- The name of a kind in reports. -/
def EntityKind.label : EntityKind → String
  | function => "function"
  | classType => "class"

/-- The declaration of a function or a class. -/
structure Declaration where
  kind : EntityKind := .function
  name : String
  lineStart : Int
  lineEnd : Int
  parameters : Int := 0
  /-- The names of the fields of a class. -/
  properties : List String := []
  /-- Whether the brace that ends the body was found; if not, the declaration runs to the end. -/
  closed : Bool := true
  hasBody : Bool := true
  columnStart : Int := 0
  /-- The column after the last character, or none for the end of the line. -/
  columnEnd : Option Int := none
  score : Option Score := none
  deriving DecidableEq, Repr

namespace Declaration

/-- The number of lines of a declaration. -/
def linesOfCode (d : Declaration) : Int := d.lineEnd - d.lineStart + 1

/-- The warning about a declaration whose end was not found. -/
def unclosedWarning (d : Declaration) : String :=
  s!"{d.kind.label} '{d.name}' at line {d.lineStart} has no closing brace; " ++
    s!"extended to line {d.lineEnd}"

end Declaration

/-- A declaration with the entities declared inside it. -/
inductive Entity where
  | node (declaration : Declaration) (children : List Entity)
  deriving Repr

namespace Entity

/-- The declaration at the root. -/
def declaration : Entity → Declaration
  | node d _ => d

/-- The entities declared directly inside. -/
def children : Entity → List Entity
  | node _ es => es

/-- Whether the entity is a function. -/
def isFunction (e : Entity) : Bool := e.declaration.kind == .function

/-- Whether the entity is a class. -/
def isClass (e : Entity) : Bool := e.declaration.kind == .classType

mutual

/-- An entity and all entities inside it, parents before children. -/
def preorder : Entity → List Entity
  | node d es => node d es :: preorderAll es

/-- The entities of a forest, parents before children. -/
def preorderAll : List Entity → List Entity
  | [] => []
  | e :: rest => preorder e ++ preorderAll rest

end

mutual

/-- Changes every declaration of an entity. -/
def map (f : Declaration → Declaration) : Entity → Entity
  | node d es => node (f d) (mapAll f es)

/-- Changes every declaration of a forest. -/
def mapAll (f : Declaration → Declaration) : List Entity → List Entity
  | [] => []
  | e :: rest => map f e :: mapAll f rest

end

/-- The functions of a forest at any depth. -/
def functions (forest : List Entity) : List Entity := (preorderAll forest).filter isFunction

/-- The classes of a forest at any depth. -/
def classes (forest : List Entity) : List Entity := (preorderAll forest).filter isClass

end Entity

end SourceMetrics
