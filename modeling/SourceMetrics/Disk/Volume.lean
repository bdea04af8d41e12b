import SourceMetrics.Disk.Basic
import SourceMetrics.Path
import SourceMetrics.Table

/-!
# Volumes

A volume is a tree of directories with files and symbolic links, seen from one of its directories,
its home. A path is followed component by component, from the top if it begins with a slash and from
the home otherwise; a link is replaced by the components of its target, at most forty times.

Sizes and contents are asked for with the plain form of a path, listings with the path as it is. In
a listing a link counts as a file if it leads to one, and never as a directory; a link that leads to
itself is left out.

## Main definitions

* `VolumeNode` — the trees
* `VolumeNode.place` — a tree with a new leaf
* `Volume.locate` — the node that a path leads to
* `Volume.disk` — the answers
-/

namespace SourceMetrics

/-- A file, a directory with its entries, or a symbolic link. -/
inductive VolumeNode where
  | file (content : List UInt8)
  | directory (entries : List (String × VolumeNode))
  | link (target : String)

namespace VolumeNode

/-- The entry of a directory under a name. -/
def entry? (n : VolumeNode) (name : String) : Option VolumeNode :=
  match n with
  | directory entries => entries.lookup name
  | _ => none

/-- The node at the end of a chain of names. -/
def descend? (n : VolumeNode) : List String → Option VolumeNode
  | [] => some n
  | name :: rest => (n.entry? name).bind fun inner => inner.descend? rest

/-- The directory in which the chain of names leads to a leaf. What is on the way and no directory
is replaced by one; an empty directory does not replace another. -/
def place (leaf : VolumeNode) (n : VolumeNode) : List String → VolumeNode
  | [] =>
    match n, leaf with
    | directory entries, directory [] => directory entries
    | _, _ => leaf
  | name :: rest =>
    let entries := match n with
      | directory entries => entries
      | _ => []
    let inner := place leaf ((entries.lookup name).getD (directory [])) rest
    directory (Table.insertEntry name inner entries)

mutual

/-- The number of directories on the longest chain of nested directories. -/
def height : VolumeNode → Nat
  | file _ => 0
  | link _ => 0
  | directory entries => heightAll entries + 1

/-- The largest height among the entries of a directory. -/
def heightAll : List (String × VolumeNode) → Nat
  | [] => 0
  | (_, n) :: rest => max (height n) (heightAll rest)

end

end VolumeNode

/-- A tree of directories, seen from one of them. -/
structure Volume where
  top : VolumeNode
  /-- The names that lead from the top to the home. -/
  home : List String := []

namespace Volume

/-- The components of a path for following it; a slash at its end asks for a directory. -/
def steps (path : String) : List String :=
  let parts := (Text.splitOn '/' path.toList).map String.ofList
  let named := parts.filter (· != "")
  if path.endsWith "/" then named ++ ["."] else named

/-- Whether the name of a component is too long. -/
def isLongName (name : String) : Bool := 255 < name.utf8ByteSize

/-- Follows components from a directory, which is given by the names that lead to it, innermost
first. At most `links` links are followed. The result is the way to the node that was reached and
the node. -/
def follow (v : Volume) (links : Nat) (way : List String) (names : List String) :
    Except SystemCause (List String × VolumeNode) :=
  match names with
  | [] =>
    match v.top.descend? way.reverse with
    | some node => .ok (way, node)
    | none => .error .missing
  | name :: rest =>
    match v.top.descend? way.reverse with
    | some (.directory entries) =>
      if name = "." then follow v links way rest
      else if name = ".." then follow v links (way.drop 1) rest
      else if isLongName name then .error .nameTooLong
      else
        match entries.lookup name with
        | none => .error .missing
        | some (.link target) =>
          match links with
          | 0 => .error .tooManyLinks
          | links + 1 =>
            if target = "" then .error .missing
            else follow v links (if target.startsWith "/" then [] else way) (steps target ++ rest)
        | some _ => follow v links (name :: way) rest
    | some _ => .error .notDirectory
    | none => .error .missing
termination_by (links, names.length)

/-- How many links may be followed on the way to a node. -/
def maxLinks : Nat := 40

/-- How many bytes a path may have. -/
def maxPathBytes : Nat := 4095

/-- The node that a path leads to. -/
def locate (v : Volume) (path : String) : Except DiskError VolumeNode :=
  if path.toList.contains '\x00' then .error .nullByte
  else if path = "" then .error (.system .missing path)
  else if maxPathBytes < path.utf8ByteSize then .error (.system .nameTooLong path)
  else
    match v.follow maxLinks (if path.startsWith "/" then [] else v.home.reverse) (steps path) with
    | .ok found => .ok found.2
    | .error cause => .error (.system cause path)

/-- The size of what a path leads to; a directory takes one block. -/
def stat (v : Volume) (path : String) : Except DiskError Int := do
  match ← v.locate (Path.plain path) with
  | .file content => return content.length
  | _ => return 4096

/-- The content of the file that a path leads to. -/
def fileContent (v : Volume) (path : String) : Except DiskError (List UInt8) := do
  match ← v.locate path with
  | .file content => return content
  | _ => .error (.system .isDirectory path)

/-- The content of the file that the plain form of a path leads to. -/
def read (v : Volume) (path : String) : Except DiskError (List UInt8) :=
  v.fileContent (Path.plain path)

/-- Whether a path leads to a directory. -/
def isDirectory (v : Volume) (path : String) : Except DiskError Bool := do
  match ← v.locate (Path.plain path) with
  | .directory _ => return true
  | _ => return false

/-- An entry in the listing of a directory. -/
def listed? (v : Volume) (directory : String) (entry : String × VolumeNode) : Option Listed :=
  let path := Path.join directory entry.1
  let shown (isDirectory isFile : Bool) : Listed := { name := entry.1, path, isDirectory, isFile }
  match entry.2 with
  | .directory _ => some (shown true false)
  | .file _ => some (shown false true)
  | .link _ =>
    match v.locate path with
    | .ok (.file _) => some (shown false true)
    | .ok _ => some (shown false false)
    | .error e => if e.isMissing then some (shown false false) else none

/-- The entries of the directory that a path leads to. -/
def list (v : Volume) (path : String) : Except DiskError (List Listed) := do
  match ← v.locate path with
  | .directory entries => return entries.filterMap (v.listed? path)
  | _ => .error (.system .notDirectory path)

/-- The answers of the volume. -/
def disk (v : Volume) : Disk :=
  { stat := v.stat, read := v.read, list := v.list, depth := v.top.height }

end Volume

end SourceMetrics
