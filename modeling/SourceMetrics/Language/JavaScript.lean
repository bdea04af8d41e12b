import SourceMetrics.Scanner

/-!
# JavaScript and TypeScript

Function declarations and expressions, arrow functions that are bound to a variable, classes with
their methods, accessors, arrow functions and fields. Type annotations are tolerated and not
interpreted. Template literals span lines.

A parenthesis starts an arrow function only if an arrow follows the parameter list, which may
contain one level of parentheses and be followed by a type.

## Main definitions

* `JavaScript.scanner` — the scanner for JavaScript and TypeScript
-/

namespace SourceMetrics

namespace JavaScript

open Pattern

/-- A name. -/
def identifier : Pattern :=
  one { ranges := [('A', 'Z'), ('a', 'z')], chars := ['_', '$'] } ++
    many (one { word := true, chars := ['$'] })

/-- The name of a member, which may be private. -/
def memberName : Pattern := opt (lit "#") ++ identifier

/-- Type parameters between angle brackets. -/
def typeParameters : Pattern := lit "<" ++ many (noneOf ">") ++ lit ">"

/-- A type annotation in front of an equals sign. -/
def typeAscription : Pattern := lit ":" ++ many1 (noneOf "=")

/-- The start of an arrow function: a single parameter and the arrow, or the parenthesis of a
parameter list that an arrow follows. -/
def arrowStart : Pattern :=
  opt (lit "async" ++ gap) ++
    (remember .parameter identifier ++ blanks ++ lit "=>" <|>
      opt (typeParameters ++ blanks) ++ lit "(" ++
        ahead (many (noneOf "()") ++
          many (lit "(" ++ many (noneOf "()") ++ lit ")" ++ many (noneOf "()")) ++ lit ")" ++
          blanks ++ opt (lit ":" ++ noneOf "=" ++ few (noneOf "=")) ++ lit "=>"))

/-- The keyword of a function expression, up to the parenthesis of its parameters. -/
def functionKeyword : Pattern :=
  opt (lit "async" ++ gap) ++ lit "function" ++ boundary ++ blanks ++ opt (lit "*") ++ blanks ++
    opt identifier ++ blanks ++ lit "("

/-- The declaration of a variable, up to its name. -/
def binding : Pattern :=
  blanks ++ opt (lit "export" ++ gap) ++ oneOf ["const", "let", "var"] ++ gap ++
    remember .name identifier ++ blanks

/-- What may stand in front of an exported declaration. -/
def exported : Pattern := opt (lit "export" ++ gap ++ opt (lit "default" ++ gap))

/-- A class declaration, with or without a name. -/
def classDeclaration : Pattern :=
  blanks ++ exported ++ modifiers ["abstract", "declare"] ++ lit "class" ++ boundary ++
    opt (gap ++ notAhead (lit "extends" ++ boundary <|> lit "implements" ++ boundary) ++
      remember .name identifier)

/-- A class that is bound to a variable. -/
def classExpression : Pattern := binding ++ lit "=" ++ blanks ++ lit "class" ++ boundary

/-- A function declaration, with or without a name. -/
def functionDeclaration : Pattern :=
  blanks ++ exported ++ opt (lit "declare" ++ gap) ++ opt (lit "async" ++ gap) ++ lit "function" ++
    boundary ++ blanks ++ opt (lit "*") ++ blanks ++ opt (remember .name identifier) ++ blanks ++
    opt typeParameters ++ blanks ++ lit "("

/-- A function expression that is bound to a variable. -/
def functionExpression : Pattern :=
  binding ++ opt typeAscription ++ lit "=" ++ blanks ++ functionKeyword

/-- A function expression that is assigned to a property. -/
def assignedFunction : Pattern :=
  blanks ++ many1 (many1 (one { word := true, chars := ['$'] }) ++ lit ".") ++
    remember .name identifier ++ blanks ++ lit "=" ++ blanks ++ functionKeyword

/-- An arrow function that is bound to a variable. -/
def arrowFunction : Pattern := binding ++ opt typeAscription ++ lit "=" ++ blanks ++ arrowStart

/-- A method or an accessor. -/
def method : Pattern :=
  blanks ++
    modifiers ["public", "private", "protected", "static", "async", "readonly", "override",
      "abstract", "declare", "get", "set"] ++
    opt (lit "*") ++ blanks ++ remember .name memberName ++ blanks ++ opt (anyOf "?!") ++ blanks ++
    opt typeParameters ++ blanks ++ lit "("

/-- An arrow function that is bound to a field. -/
def arrowMember : Pattern :=
  blanks ++ modifiers ["public", "private", "protected", "static", "readonly", "override"] ++
    remember .name memberName ++ blanks ++ opt typeAscription ++ lit "=" ++ blanks ++ arrowStart

/-- A field. -/
def field : Pattern :=
  blanks ++
    modifiers ["public", "private", "protected", "static", "readonly", "declare", "override",
      "accessor"] ++
    remember .name memberName ++ blanks ++ opt (anyOf "?!") ++ blanks ++
    opt (lit ":" ++ many1 (noneOf "=;")) ++ (lit "=" ++ notAhead (lit ">") <|> lit ";")

/-- How JavaScript is outlined. An arrow function may have an expression for its body. -/
def dialect : Dialect :=
  { rules := { multilineQuotes := [['\x60']] }
    classes := [classDeclaration, classExpression]
    functions :=
      [{ pattern := functionDeclaration }, { pattern := functionExpression },
       { pattern := assignedFunction }, { pattern := arrowFunction, bodyRequired := false }]
    members := [{ pattern := arrowMember, bodyRequired := false }, { pattern := method }]
    fields := [field] }

/-- The scanner for JavaScript and TypeScript. -/
def scanner : Scanner :=
  { name := "JavaScriptScanner"
    language := "javascript"
    extensions := [".js", ".jsx", ".mjs", ".cjs", ".ts", ".tsx"]
    aliases := ["js", "ts", "typescript", "node", "react"]
    dialect }

end JavaScript

end SourceMetrics
