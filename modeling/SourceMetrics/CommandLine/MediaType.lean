import SourceMetrics.Path
import SourceMetrics.Text.LowerCase

/-!
# Media types of files

Detection asks which media types a path suggests and takes any answer. This is the answer that the
command gives. It is limited to the types that the standard profiles list: the first comes from the
extension, in which a mark of compression is skipped, and the others from the form of the file name.
A name that suggests other types only has none here.

## Main definitions

* `knownMediaTypes` — the media types of a path, the likeliest first
-/

namespace SourceMetrics

namespace MediaType

/-- Splits a path at the last dot of its file name. Dots that the file name begins with
do not count. -/
def splitExtension (path : List Char) : List Char × List Char :=
  let backwards := path.reverse
  let fileName := (backwards.takeWhile (· != '/')).reverse
  let dots := (fileName.takeWhile (· == '.')).length
  let inner := fileName.drop dots
  if inner.contains '.' then
    let tail := (inner.reverse.takeWhile (· != '.')).length + 1
    (path.take (path.length - tail), path.drop (path.length - tail))
  else (path, [])

/-- Extensions of compressed files. -/
def compressions : List String := [".gz", ".Z", ".bz2", ".xz", ".br"]

/-- The media type of an extension in lower case. -/
def ofExtension? (extension : String) : Option String :=
  if extension = ".js" || extension = ".mjs" then some "application/javascript"
  else if extension = ".py" then some "text/x-python"
  else none

/-- The media type of the extension of a path, or of what was compressed into it. -/
def byExtension? (path : String) : Option String :=
  let parts := splitExtension path.toList
  let extension :=
    if compressions.contains (String.ofList parts.2) then (splitExtension parts.1).2 else parts.2
  ofExtension? (Text.lower (String.ofList extension))

/-- Ends of file names, or whole file names, with the media types that go with them. -/
structure Rule where
  endings : List String
  fileNames : List String := []
  types : List String

/-- What file names suggest. -/
def rules : List Rule :=
  [{ endings := [".c", ".h", ".idc", ".xbm", ".xpm"], types := ["text/x-chdr", "text/x-csrc"] },
   { endings := [".cs"], types := ["text/x-csharp"] },
   { endings := [".cpp", ".hpp", ".c++", ".h++", ".cc", ".hh", ".cxx", ".hxx", ".C", ".H", ".cp",
       ".CPP", ".tpp"]
     types := ["text/x-c++hdr", "text/x-c++src"] },
   { endings := [".dts", ".dtsi"], types := ["text/x-c"] },
   { endings := [".java"], types := ["text/x-java"] },
   { endings := [".js", ".jsm", ".mjs", ".cjs"]
     types := ["application/javascript", "application/x-javascript", "text/x-javascript",
       "text/javascript"] },
   { endings := [".py", ".pyw", ".pyi", ".jy", ".sage", ".bzl", ".tac"]
     fileNames := ["SConstruct", "SConscript", "BUCK", "BUILD", "BUILD.bazel", "WORKSPACE"]
     types := ["text/x-python", "application/x-python"] },
   { endings := [".rb", ".rbw", ".rake", ".gemspec", ".rbx", ".duby"]
     fileNames := ["Rakefile", "Gemfile", "Vagrantfile"]
     types := ["text/x-ruby", "application/x-ruby"] },
   { endings := [".ts"], types := ["application/x-typescript", "text/x-typescript"] }]

/-- Whether a rule is about a file name. -/
def Rule.covers (r : Rule) (fileName : String) : Bool :=
  r.endings.any (fun ending => ending.toList.isSuffixOf fileName.toList) ||
    r.fileNames.contains fileName

/-- The media types that a file name suggests. -/
def byFileName (fileName : String) : List String :=
  match rules.find? fun rule => rule.covers fileName with
  | some rule => rule.types
  | none => []

end MediaType

/-- The media types of the standard profiles that a path suggests, the likeliest first. -/
def knownMediaTypes (path : String) : List String :=
  (MediaType.byExtension? path).toList ++ MediaType.byFileName (Path.name path)

end SourceMetrics
