import SourceMetrics.Scanner

/-!
# C#

Classes, interfaces, structs, enums and records, with their methods, constructors, finalizers,
fields and properties. A member with an expression for its body has no body. Raw strings between
tripled quotes span lines.

## Main definitions

* `CSharp.scanner` — the scanner for C#
-/

namespace SourceMetrics

namespace CSharp

open Pattern

/-- Attributes in front of a declaration. -/
def attributes : Pattern := many (lit "[" ++ many (noneOf "]") ++ lit "]" ++ blanks)

/-- Type arguments between angle brackets. -/
def typeArguments : Pattern := lit "<" ++ few (noneOf "()") ++ lit ">"

/-- A type, with type arguments, array brackets and the mark of a nullable type. -/
def type : Pattern :=
  many1 (one { word := true, chars := ['.'] }) ++ opt typeArguments ++
    many (lit "[" ++ many (one { blank := true, chars := [','] }) ++ lit "]") ++ opt (lit "?")

/-- A name. -/
def identifier : Pattern :=
  one { ranges := [('A', 'Z'), ('a', 'z')], chars := ['_'] } ++ many (one { word := true })

/-- A class or anything declared like one. -/
def classPattern : Pattern :=
  blanks ++ attributes ++
    modifiers ["public", "private", "protected", "internal", "static", "abstract", "sealed",
      "partial", "readonly", "unsafe", "new", "file", "ref"] ++
    (oneOf ["class", "interface", "struct", "enum"] <|>
      lit "record" ++ opt (gap ++ oneOf ["class", "struct"])) ++
    gap ++ remember .name identifier

/-- A method, a constructor or a finalizer. -/
def methodPattern : Pattern :=
  blanks ++ attributes ++
    modifiers ["public", "private", "protected", "internal", "static", "virtual", "override",
      "abstract", "sealed", "async", "extern", "unsafe", "new", "partial", "readonly"] ++
    opt (remember .type type ++ gap) ++ remember .name (opt (lit "~") ++ identifier) ++ blanks ++
    opt typeArguments ++ blanks ++ lit "("

/-- A field or a property. -/
def fieldPattern : Pattern :=
  blanks ++ attributes ++
    modifiers ["public", "private", "protected", "internal", "static", "readonly", "const",
      "volatile", "new", "required", "virtual", "override", "abstract", "event"] ++
    remember .type type ++ gap ++ remember .name identifier ++ blanks ++ anyOf "=;\x7b"

/-- How C# is outlined. Statements outside classes may declare local functions. -/
def dialect : Dialect :=
  { rules := { multilineQuotes := [['"', '"', '"']] }
    classes := [classPattern]
    functions := [{ pattern := methodPattern }]
    members := [{ pattern := methodPattern }]
    fields := [fieldPattern] }

/-- The scanner for C#. -/
def scanner : Scanner :=
  { name := "CSharpScanner"
    language := "csharp"
    extensions := [".cs"]
    aliases := ["c#", "cs"]
    dialect }

end CSharp

end SourceMetrics
