import SourceMetrics.Scanner

/-!
# C++

Classes, structs and unions, templated or not, free functions, members defined outside their class,
constructors, destructors and operators. A prototype inside a class is a function without a body;
one outside is none.

## Main definitions

* `Cpp.scanner` — the scanner for C++
-/

namespace SourceMetrics

namespace Cpp

open Pattern

/-- The parameters of a template. -/
def template : Pattern :=
  opt (lit "template" ++ blanks ++ lit "<" ++ many (noneOf ">") ++ lit ">" ++ blanks)

/-- A name. -/
def identifier : Pattern :=
  one { ranges := [('A', 'Z'), ('a', 'z')], chars := ['_'] } ++ many (one { word := true })

/-- A type name with its type arguments. -/
def typeName : Pattern :=
  many1 (one { word := true, chars := [':'] }) ++ opt (lit "<" ++ few (noneOf "()") ++ lit ">")

/-- What separates a type from a name: the marks of pointers and references, or blanks. -/
def separation : Pattern := blanks ++ many1 (anyOf "*&") ++ blanks <|> gap

/-- An alignment, an attribute or the name of a macro in front of the name of a class. -/
def classAttribute : Pattern :=
  lit "alignas" ++ blanks ++ lit "(" ++ many (noneOf ")") ++ lit ")" <|>
    lit "[[" ++ many (noneOf "]") ++ lit "]]" <|>
    one { ranges := [('A', 'Z')], chars := ['_'] } ++
      many (one { ranges := [('A', 'Z'), ('0', '9')], chars := ['_'] })

/-- A class, struct or union. Its header ends with the line or with the brace of its body. -/
def classPattern : Pattern :=
  blanks ++ template ++ opt (lit "enum" ++ gap) ++ oneOf ["class", "struct", "union"] ++ gap ++
    many (classAttribute ++ gap) ++ remember .name identifier ++ blanks ++
    opt (lit "final" ++ boundary ++ blanks) ++
    opt (lit ":" ++ notAhead (lit ":") ++ many (noneOf ";\x7b")) ++ (lit "\x7b" <|> finish)

/-- The symbol of an operator. -/
def operatorSymbol : Pattern :=
  lit "()" <|> many1 (one { blank := true, chars := ['('], negated := true })

/-- A name with its enclosing scopes, possibly of a destructor or an operator. -/
def qualifiedName : Pattern :=
  opt (lit "~") ++ identifier ++ many (lit "::" ++ opt (lit "~") ++ identifier) ++
      opt (lit "::operator" ++ blanks ++ operatorSymbol) <|>
    lit "operator" ++ blanks ++ operatorSymbol

/-- The type that a function returns. -/
def returnType : Pattern :=
  modifiers ["const", "volatile", "unsigned", "signed", "long", "short", "struct", "enum",
      "typename"] ++
    typeName ++ separation ++ opt (lit "const" ++ blanks ++ many (anyOf "*&") ++ blanks)

/-- A function, a constructor, a destructor or an operator. -/
def functionPattern : Pattern :=
  blanks ++ template ++
    modifiers ["inline", "static", "virtual", "explicit", "constexpr", "consteval", "extern",
      "friend"] ++
    opt (remember .type returnType) ++ remember .name qualifiedName ++ blanks ++ lit "("

/-- A field. -/
def fieldPattern : Pattern :=
  blanks ++
    modifiers ["static", "const", "constexpr", "mutable", "volatile", "inline", "unsigned",
      "signed", "long", "short"] ++
    remember .type typeName ++ separation ++ remember .name identifier ++ blanks ++
    opt (lit "[" ++ many (noneOf "]") ++ lit "]" ++ blanks) ++ anyOf "=;\x7b,"

/-- How C++ is outlined. -/
def dialect : Dialect :=
  { classes := [classPattern]
    functions := [{ pattern := functionPattern }]
    members := [{ pattern := functionPattern }]
    fields := [fieldPattern]
    voidIsEmpty := true }

/-- The scanner for C++. -/
def scanner : Scanner :=
  { name := "CppScanner"
    language := "cpp"
    extensions := [".cpp", ".cc", ".cxx", ".c++", ".hpp", ".hh", ".hxx", ".h++"]
    aliases := ["c++", "cxx", "cplusplus"]
    dialect }

end Cpp

end SourceMetrics
