import SourceMetrics.Registry.Basic
import SourceMetrics.Settings.Basic

/-!
# Which files are analysed

A file is analysed if a scanner is registered for its extension. Directories of tools, build output,
hidden directories and, unless the settings say otherwise, tests and dependencies are left out, and
so is what the ignore rules leave out.

## Main definitions

* `skippedDirectories`, `testDirectories` — names of directories
* `isTestFile` — names of tests
* `FileFilter` — the decision for directories and files
-/

namespace SourceMetrics

/-- Directories that are never looked into. -/
def skippedDirectories : List String :=
  [".git", ".svn", ".hg", "dist", "build", "target", "bin", "obj", ".idea", ".vscode",
   "__pycache__", ".pytest_cache"]

/-- Directories of tests, in lower case. -/
def testDirectories : List String :=
  ["test", "tests", "spec", "specs", "__tests__", "__test__", "testing"]

/-- How the names of tests of some languages end. -/
def testEndings : List String :=
  ["Test", "Tests"].flatMap fun word =>
    [".java", ".cs", ".cpp", ".cc", ".cxx"].map fun extension => word ++ extension

/-- The name without a line feed at its end. -/
def withoutLineFeed (cs : List Char) : List Char :=
  if cs.getLast? = some '\n' then cs.dropLast else cs

/-- Whether a file name is that of a test. A line feed at the end does not matter. -/
def isTestFile (name : String) : Bool :=
  let cs := name.toList
  ["test_", "test."].any (fun piece => piece.toList.isPrefixOf cs) ||
    ["_test.", ".test.", ".spec."].any (fun piece => Text.occurs piece.toList cs) ||
    testEndings.any fun ending =>
      ending.toList.isSuffixOf cs || ending.toList.isSuffixOf (withoutLineFeed cs)

/-- What decides about files and directories. -/
structure FileFilter where
  settings : Settings
  registry : Registry
  /-- Which paths, relative to the root, the ignore rules leave out. -/
  ignored : String → Bool

namespace FileFilter

/-- Whether a directory of the given name is not looked into. -/
def skipsDirectory (f : FileFilter) (name : String) : Bool :=
  if name = "node_modules" then !f.settings.includeNodeModules
  else
    (!f.settings.includeTests && testDirectories.contains (Text.lower name)) ||
      skippedDirectories.contains name || name.startsWith "."

/-- Whether a file is one to analyse, apart from the ignore rules. -/
def selects (f : FileFilter) (path : String) : Bool :=
  let suffix := Path.suffix path
  suffix != "" && (f.registry.byExtension? suffix).isSome &&
    (f.settings.includeTests || !isTestFile (Path.name path))

/-- Whether a directory is looked into. -/
def keepsDirectory (f : FileFilter) (name relative : String) : Bool :=
  !(f.skipsDirectory name || f.ignored (relative ++ "/"))

/-- Whether a file is analysed. -/
def keepsFile (f : FileFilter) (path relative : String) : Bool :=
  f.selects path && !f.ignored relative

end FileFilter

end SourceMetrics
