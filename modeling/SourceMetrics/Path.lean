import SourceMetrics.Text.Search

/-!
# Paths

A path is a text whose components are separated by slashes. Empty components and single dots do not
change what a path denotes, so its plain form leaves them out; a component of two dots stays.

## Main definitions

* `Path.components`, `Path.name`, `Path.suffix` — the parts of a path
* `Path.plain` — the path without empty components and dots
* `Path.join` — an entry of a directory
-/

namespace SourceMetrics

namespace Path

/-- The components that count. -/
def components (path : String) : List String :=
  ((Text.splitOn '/' path.toList).map String.ofList).filter fun part => part != "" && part != "."

/-- The slashes that a path begins with: none, one, or exactly two. -/
def root (path : String) : String :=
  match (path.toList.takeWhile (· == '/')).length with
  | 0 => ""
  | 2 => "//"
  | _ => "/"

/-- The path without empty components and dots; nothing at all is the current directory. -/
def plain (path : String) : String :=
  let text := root path ++ "/".intercalate (components path)
  if text = "" then "." else text

/-- The last component, or nothing. -/
def name (path : String) : String := (components path).getLastD ""

/-- The end of a component from its last dot on; the dot is neither its first nor its last
character. -/
def componentSuffix (component : String) : String :=
  let cs := component.toList
  let tail := cs.reverse.takeWhile (· != '.')
  let stem := cs.length - tail.length
  if tail.length = cs.length || stem ≤ 1 || tail.isEmpty then ""
  else String.ofList ('.' :: tail.reverse)

/-- The extension of a path with its dot, or nothing. -/
def suffix (path : String) : String := componentSuffix (name path)

/-- The path of an entry of a directory. -/
def join (directory entry : String) : String :=
  if directory.isEmpty || directory.endsWith "/" then directory ++ entry
  else directory ++ "/" ++ entry

end Path

end SourceMetrics
