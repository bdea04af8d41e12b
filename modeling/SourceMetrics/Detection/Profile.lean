/-!
# Language profiles

A profile says how a language is recognised: by the extension of a file, by its media type, by the
interpreter in its first line, and by words that are frequent in its sources. The pattern for the
first line is a text. What it means, and whether it means anything, is up to those who read it.

## Main definitions

* `Profile` — how a language is recognised
* `Profile.standard` — the profiles of the languages that are known from the start
-/

namespace SourceMetrics

/-- How a language is recognised. -/
structure Profile where
  name : String
  /-- Extensions with their dots. -/
  extensions : List String := []
  mimeTypes : List String := []
  /-- The text of a pattern for first lines that name an interpreter. -/
  shebang : Option String := none
  /-- Pieces of text that are frequent in sources. -/
  keywords : List String := []
  deriving DecidableEq, Repr

namespace Profile

/-- The text of the pattern for first lines, if there is one; an empty text is none. -/
def pattern? (p : Profile) : Option String := p.shebang.filter (· ≠ "")

/-- The profiles that are known from the start. Their order decides between languages whose words
are equally frequent. -/
def standard : List Profile :=
  [{ name := "java"
     extensions := [".java"]
     mimeTypes := ["text/x-java", "text/x-java-source"]
     keywords := ["public class", "import java.", "system.out", "@override", "private ",
       "protected ", "package ", "extends ", "implements "] },
   { name := "javascript"
     extensions := [".js", ".jsx", ".mjs", ".cjs"]
     mimeTypes := ["text/javascript", "application/javascript", "application/x-javascript"]
     shebang := some "^#!.*\\b(node|nodejs|deno|bun)\\b"
     keywords := ["function ", "const ", "let ", "=>", "console.log", "require(", "module.exports",
       "export default", "document."] },
   { name := "typescript"
     extensions := [".ts", ".tsx", ".mts", ".cts"]
     mimeTypes := ["application/typescript", "application/x-typescript", "text/x-typescript"]
     shebang := some "^#!.*\\b(ts-node|tsx)\\b"
     keywords := ["interface ", ": string", ": number", ": boolean", "import type", "export type",
       "readonly ", "implements "] },
   { name := "cpp"
     extensions := [".cpp", ".cc", ".cxx", ".c++", ".hpp", ".hh", ".hxx", ".h++", ".C", ".H"]
     mimeTypes := ["text/x-c++src", "text/x-c++hdr", "text/x-c++"]
     keywords := ["#include <iostream>", "std::", "namespace ", "template<", "template <",
       "cout <<", "nullptr", "public:", "private:"] },
   { name := "c"
     extensions := [".c", ".h"]
     mimeTypes := ["text/x-c", "text/x-csrc", "text/x-chdr"]
     keywords := ["#include <stdio.h>", "#include <stdlib.h>", "printf(", "malloc(", "struct ",
       "typedef "] },
   { name := "csharp"
     extensions := [".cs"]
     mimeTypes := ["text/x-csharp"]
     keywords := ["using system", "namespace ", "console.writeline", "public class", " get; ",
       " set; ", "async task", "[serializable]"] },
   { name := "python"
     extensions := [".py", ".pyw", ".pyi"]
     mimeTypes := ["text/x-python", "application/x-python", "text/x-script.python"]
     shebang := some "^#!.*\\bpython[0-9.]*\\b"
     keywords := ["def ", "import ", "self.", "elif ", "__init__", "print("] },
   { name := "ruby"
     extensions := [".rb"]
     mimeTypes := ["text/x-ruby", "application/x-ruby"]
     shebang := some "^#!.*\\bruby\\b"
     keywords := ["require '", "def ", "end\n", "puts ", "attr_accessor"] },
   { name := "go"
     extensions := [".go"]
     mimeTypes := ["text/x-go"]
     keywords := ["package main", "func ", "fmt.", ":= ", "go func"] }]

end Profile

end SourceMetrics
