import SourceMetrics.Language.CSharp
import SourceMetrics.Language.Cpp
import SourceMetrics.Language.Java
import SourceMetrics.Language.JavaScript
import SourceMetrics.Registry.Basic

/-!
# The scanners that are always there

## Main definitions

* `builtinScanners` — the scanners of the library
* `Registry.standard` — the registry that holds them
-/

namespace SourceMetrics

/-- The scanners of the library, in the order of their registration. -/
def builtinScanners : List Scanner :=
  [Java.scanner, JavaScript.scanner, Cpp.scanner, CSharp.scanner]

/-- The registry with a scanner under everything it declares. -/
def Registry.putDeclared (r : Registry) (scanner : Scanner) (metadata : List (String × Json)) :
    Registry :=
  r.put scanner.language ⟨scanner, metadata⟩ scanner.extensions scanner.aliases

/-- The registry of the scanners of the library. -/
def Registry.standard : Registry :=
  builtinScanners.foldl (fun r scanner => r.putDeclared scanner [("builtin", .bool true)]) {}

end SourceMetrics
