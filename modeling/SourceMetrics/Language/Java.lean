import SourceMetrics.Scanner

/-!
# Java

Classes, interfaces, enums, records and annotation types, with their methods, constructors and
fields. Methods of interfaces and abstract methods have no body. Text blocks between tripled quotes
span lines.

## Main definitions

* `Java.scanner` — the scanner for Java
-/

namespace SourceMetrics

namespace Java

open Pattern

/-- Annotations in front of a declaration. -/
def annotations : Pattern :=
  many (lit "@" ++ many1 (one { word := true, chars := ['.'] }) ++
    opt (lit "(" ++ many (noneOf ")") ++ lit ")") ++ gap)

/-- A type, with type arguments and array brackets. -/
def type : Pattern :=
  many1 (one { word := true, chars := ['$', '.', '[', ']', '?'] }) ++
    opt (lit "<" ++ few (noneOf "()") ++ lit ">") ++ many (lit "[]")

/-- A name. -/
def identifier : Pattern :=
  one { ranges := [('A', 'Z'), ('a', 'z')], chars := ['_', '$'] } ++
    many (one { word := true, chars := ['$'] })

/-- A class or anything declared like one. -/
def classPattern : Pattern :=
  blanks ++ annotations ++
    modifiers ["public", "protected", "private", "static", "final", "abstract", "sealed",
      "non-sealed", "strictfp"] ++
    oneOf ["class", "interface", "enum", "record", "@interface"] ++ gap ++ remember .name identifier

/-- A method or a constructor. -/
def methodPattern : Pattern :=
  blanks ++ annotations ++
    modifiers ["public", "protected", "private", "static", "final", "abstract", "synchronized",
      "native", "strictfp", "default"] ++
    opt (lit "<" ++ many (noneOf ">") ++ lit ">" ++ gap) ++
    opt (remember .type type ++ gap) ++ remember .name identifier ++ blanks ++ lit "("

/-- A field. -/
def fieldPattern : Pattern :=
  blanks ++ annotations ++
    modifiers ["public", "protected", "private", "static", "final", "transient", "volatile"] ++
    remember .type type ++ gap ++ remember .name identifier ++ blanks ++ anyOf "=;,["

/-- How Java is outlined. Methods outside classes occur in snippets only and look the same. -/
def dialect : Dialect :=
  { rules := { multilineQuotes := [['"', '"', '"']] }
    classes := [classPattern]
    functions := [{ pattern := methodPattern }]
    members := [{ pattern := methodPattern }]
    fields := [fieldPattern] }

/-- The scanner for Java. -/
def scanner : Scanner :=
  { name := "JavaScanner"
    language := "java"
    extensions := [".java"]
    dialect }

end Java

end SourceMetrics
