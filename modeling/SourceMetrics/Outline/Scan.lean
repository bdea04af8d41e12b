import SourceMetrics.Entity.Basic
import SourceMetrics.Outline.Block
import SourceMetrics.Outline.Dialect
import SourceMetrics.Text.Line

/-!
# Outlining a source

A scanner walks over the lines of a masked source. On each line it tries the patterns for classes
and then those for functions, or for members inside a class. A declaration takes the lines up to the
end of its body; the lines of a class behind the one that opens its body are outlined in turn. A
body that is never closed runs to the last line of the range. Fields are collected on the lines of a
class that belong to no declaration inside it and start at depth one of its braces.

Classes may stand in classes to any depth. A program whose calls have a limited depth gives up at
about five hundred classes in one another; that limit is left out here.

The functions on a single declaration see the lines from its first one to the end of the range, so
every place they return is relative to the first line.

## Main definitions

* `Extent` — where a declaration with a body ends
* `Dialect.classHead?`, `Dialect.functionHead?`, `Dialect.fieldName?` — what a line declares
* `Dialect.scanRange` — the outline of a range of lines
* `Dialect.outline` — the outline of a source
-/

namespace SourceMetrics

/-- The name of a declaration that has none. -/
def anonymous : List Char := "anonymous".toList

/-- Where a block ends: its last line, the column behind it, and whether its end was found. -/
structure Extent where
  line : Nat
  column : Option Nat
  closed : Bool
  deriving DecidableEq, Repr

/-- The extent of the block whose opening brace stands at a place. -/
def Extent.ofBlock (lines : List (List Char)) (start : Place) : Extent :=
  match blockEnd? lines start with
  | some stop => ⟨stop.line, some stop.column, true⟩
  | none => ⟨max start.line (lines.length - 1), none, false⟩

/-- What a line that declares a class says. -/
structure ClassHead where
  name : List Char
  /-- The brace that opens the body. -/
  body : Place
  extent : Extent
  deriving DecidableEq, Repr

/-- What a line that declares a function says. -/
structure FunctionHead where
  name : List Char
  parameters : Nat
  hasBody : Bool
  extent : Extent
  deriving DecidableEq, Repr

namespace Dialect

/-- Whether a match may declare something under its name. -/
def nameAllowed (m : Pattern.Cursor) : Bool :=
  match m.part? .name with
  | some part => part.text == anonymous || isDeclarableName part.text
  | none => true

/-- Whether the type of a match contains a control word. -/
def typeForbidden (m : Pattern.Cursor) : Bool :=
  match m.part? .type with
  | some part => mentionsControlWord part.text
  | none => false

/-- The name of a match. -/
def nameOf (m : Pattern.Cursor) : List Char :=
  match m.part? .name with
  | some part => part.text
  | none => anonymous

/-- Where the header of a class ends: behind its name, or else behind the match. -/
def headerEnd (m : Pattern.Cursor) : Nat :=
  match m.part? .name with
  | some part => part.stop
  | none => m.position

/-- The class that a pattern finds on the first line. -/
def classBy? (lines : List (List Char)) (pattern : Pattern) : Option ClassHead :=
  match pattern.match? (lines.headD []) with
  | none => none
  | some m =>
    if nameAllowed m then
      (findBody? lines ⟨0, headerEnd m⟩).map fun body =>
        { name := nameOf m, body, extent := Extent.ofBlock lines body }
    else none

/-- The class declared on the first line. -/
def classHead? (d : Dialect) (lines : List (List Char)) : Option ClassHead :=
  d.classes.findSome? (classBy? lines)

/-- The number of parameters of a function, and the place behind its header. A match without a
single parameter of its own ends with the parenthesis that opens the parameters. -/
def signature (d : Dialect) (lines : List (List Char)) (m : Pattern.Cursor) : Nat × Place :=
  if (m.part? .parameter).isSome then (1, ⟨0, m.position⟩)
  else
    let (text, place) := parenSpan lines (m.position - 1)
    (d.parameterCount text, place)

/-- The function that a pattern finds on the first line. Inside a class, a function with a type may
have no body. -/
def functionBy? (d : Dialect) (inClass : Bool) (lines : List (List Char))
    (pattern : FunctionPattern) : Option FunctionHead :=
  match pattern.pattern.match? (lines.headD []) with
  | none => none
  | some m =>
    if nameAllowed m && !typeForbidden m then
      let (parameters, header) := d.signature lines m
      match findBody? lines header with
      | some body =>
        some { name := nameOf m, parameters, hasBody := true, extent := Extent.ofBlock lines body }
      | none =>
        if pattern.bodyRequired && !(inClass && (m.part? .type).isSome) then none
        else
          some
            { name := nameOf m, parameters, hasBody := false, extent := ⟨header.line, none, true⟩ }
    else none

/-- The function declared on the first line. -/
def functionHead? (d : Dialect) (inClass : Bool) (lines : List (List Char)) : Option FunctionHead :=
  (if inClass then d.members else d.functions).findSome? (d.functionBy? inClass lines)

/-- The field that a pattern finds on a line, without the mark of a private one. -/
def fieldBy? (line : List Char) (pattern : Pattern) : Option (List Char) :=
  match pattern.match? line with
  | none => none
  | some m =>
    match m.part? .name with
    | none => none
    | some part =>
      if isDeclarableName part.text && !typeForbidden m then some (part.text.dropWhile (· == '#'))
      else none

/-- The name of the field declared on a line. -/
def fieldName? (d : Dialect) (line : List Char) : Option (List Char) :=
  d.fields.findSome? (fieldBy? line)

end Dialect

namespace ClassHead

/-- The declaration of a class whose first line has number `index`, counted from zero. -/
def declaration (h : ClassHead) (index : Nat) (properties : List String) : Declaration :=
  { kind := .classType
    name := String.ofList h.name
    lineStart := index + 1
    lineEnd := index + h.extent.line + 1
    properties
    closed := h.extent.closed
    columnEnd := h.extent.column.map Int.ofNat }

/-- The lines of the class behind the one that opens its body. -/
def innerLines (h : ClassHead) (lines : List (List Char)) : List (List Char) :=
  (lines.take (h.extent.line + 1)).drop (h.body.line + 1)

/-- The depth of the braces of the class before its inner lines. -/
def innerDepth (h : ClassHead) (lines : List (List Char)) : Int :=
  1 + braceBalance ((lines.getD h.body.line []).drop (h.body.column + 1))

end ClassHead

/-- The declaration of a function whose first line has number `index`, counted from zero. -/
def FunctionHead.declaration (h : FunctionHead) (index : Nat) : Declaration :=
  { kind := .function
    name := String.ofList h.name
    lineStart := index + 1
    lineEnd := index + h.extent.line + 1
    parameters := h.parameters
    closed := h.extent.closed
    hasBody := h.hasBody
    columnEnd := h.extent.column.map Int.ofNat }

/-- The outline of a range of lines. -/
structure Outline where
  entities : List Entity := []
  /-- The names of the fields found, with repetitions. -/
  fields : List String := []
  warnings : List String := []

/-- The warning about a declaration, if its end was not found. -/
def warningsOf (d : Declaration) : List String := if d.closed then [] else [d.unclosedWarning]

namespace Dialect

/-- The outline of the lines of a range, the first of which has number `index`, counted from zero.
Inside a class, `depth` is the depth of its braces before the first line. -/
def scanRange (d : Dialect) (inClass : Bool) (depth : Int) (index : Nat)
    (lines : List (List Char)) : Outline :=
  match lines with
  | [] => {}
  | line :: rest =>
    match d.classHead? (line :: rest) with
    | some head =>
      let inner := scanRange d true (head.innerDepth (line :: rest)) (index + head.body.line + 1)
        (head.innerLines (line :: rest))
      let declaration := head.declaration index inner.fields.eraseDups
      let after := scanRange d inClass depth (index + head.extent.line + 1)
        ((line :: rest).drop (head.extent.line + 1))
      { entities := .node declaration inner.entities :: after.entities
        fields := after.fields
        warnings := warningsOf declaration ++ inner.warnings ++ after.warnings }
    | none =>
      match d.functionHead? inClass (line :: rest) with
      | some head =>
        let declaration := head.declaration index
        let after := scanRange d inClass depth (index + head.extent.line + 1)
          ((line :: rest).drop (head.extent.line + 1))
        { after with
          entities := .node declaration [] :: after.entities
          warnings := warningsOf declaration ++ after.warnings }
      | none =>
        let field := if inClass && depth == 1 then d.fieldName? line else none
        let after := scanRange d inClass (depth + braceBalance line) (index + 1) rest
        { after with fields := (field.map String.ofList).toList ++ after.fields }
termination_by lines.length
decreasing_by
  all_goals
    simp only [ClassHead.innerLines, List.length_drop, List.length_take, List.length_cons]
    omega

/-- The outline of a masked source. -/
def outline (d : Dialect) (masked : List Char) : Outline :=
  d.scanRange false 0 0 (Text.lines masked)

end Dialect

end SourceMetrics
