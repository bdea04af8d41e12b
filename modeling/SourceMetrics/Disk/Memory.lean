import SourceMetrics.Disk.Basic
import SourceMetrics.Table
import SourceMetrics.Text.Search

/-!
# Disks in memory

A disk in memory is a table of nodes under their exact paths. It is used to try out how an analysis
deals with a disk that misbehaves: every question about a node may be set to fail, sizes may be
wrong, and reading may take long.

## Main definitions

* `MemoryNode`, `MemoryDisk` — nodes and tables of nodes
* `MemoryDisk.ofNodes` — the table of some nodes, with the directories they lie in
* `MemoryDisk.disk` — the answers
-/

namespace SourceMetrics

/-- How a question is set to fail. -/
inductive Mishap where
  | system (cause : SystemCause)
  | badValue
  deriving DecidableEq, Repr

/-- The error that a mishap causes at a path. -/
def Mishap.at (m : Mishap) (path : String) : DiskError :=
  match m with
  | system cause => .system cause path
  | badValue => .badValue

/-- What is under a path. -/
inductive MemoryKind where
  | file
  | directory
  /-- Neither a file nor a directory. -/
  | special
  deriving DecidableEq, Repr

/-- A node of a disk in memory. -/
structure MemoryNode where
  kind : MemoryKind := .file
  content : List UInt8 := []
  /-- The size that is told instead of the length of the content. -/
  claimedSize : Option Int := none
  delay : Nat := 0
  statMishap : Option Mishap := none
  readMishap : Option Mishap := none
  listMishap : Option Mishap := none
  deriving DecidableEq, Repr

/-- Nodes under their paths. -/
abbrev MemoryDisk := Table MemoryNode

namespace MemoryDisk

/-- The paths of the directories that a path lies in: what stands before each of its slashes. -/
def parentsFrom (before : List Char) : List Char → List String
  | [] => []
  | c :: rest =>
    if c = '/' && !before.isEmpty then
      String.ofList before.reverse :: parentsFrom (c :: before) rest
    else parentsFrom (c :: before) rest

/-- The disk with a directory under a path, unless there is something. -/
def addDirectory (d : MemoryDisk) (path : String) : MemoryDisk :=
  if d.contains path then d else d.insert path { kind := .directory }

/-- The disk with a node under a path. -/
def add (d : MemoryDisk) (path : String) (node : MemoryNode) : MemoryDisk :=
  (parentsFrom [] path.toList).foldl addDirectory (d.insert path node)

/-- The disk of some nodes; of several under one path the last counts. -/
def ofNodes (nodes : List (String × MemoryNode)) : MemoryDisk :=
  nodes.foldl (fun d entry => d.add entry.1 entry.2) {}

/-- The node under a path, unless the question about it is set to fail. -/
def node (d : MemoryDisk) (path : String) (mishap : MemoryNode → Option Mishap) :
    Except DiskError MemoryNode :=
  match d.get? path with
  | none => .error (.system .missing path)
  | some node =>
    match mishap node with
    | some m => .error (m.at path)
    | none => .ok node

/-- The size of the file under a path; a directory has none. -/
def stat (d : MemoryDisk) (path : String) : Except DiskError Int := do
  let node ← d.node path (·.statMishap)
  return if node.kind = .directory then 0 else node.claimedSize.getD node.content.length

/-- The content of the file under a path. -/
def read (d : MemoryDisk) (path : String) : Except DiskError (List UInt8) := do
  let node ← d.node path (·.readMishap)
  if node.kind = .directory then .error (.system .isDirectory path) else .ok node.content

/-- The name of an entry of a directory, if a path is one of its entries. -/
def entryName? (directory path : String) : Option String :=
  let front := directory.toList ++ ['/']
  if front.isPrefixOf path.toList then
    let name := path.toList.drop front.length
    if name.contains '/' then none else some (String.ofList name)
  else none

/-- The entries of a directory. -/
def list (d : MemoryDisk) (path : String) : Except DiskError (List Listed) := do
  let _ ← d.node path (·.listMishap)
  return d.entries.filterMap fun entry =>
    (entryName? path entry.1).map fun name =>
      { name, path := entry.1, isDirectory := entry.2.kind = .directory,
        isFile := entry.2.kind = .file }

/-- How long reading takes. -/
def delay (d : MemoryDisk) (path : String) : Nat := ((d.get? path).map (·.delay)).getD 0

/-- A number that no chain of nested directories exceeds. -/
def depth (d : MemoryDisk) : Nat :=
  (d.keys.map fun path => path.toList.count '/').foldl max 0 + 1

/-- The answers of the disk. -/
def disk (d : MemoryDisk) : Disk :=
  { stat := d.stat, read := d.read, list := d.list, delay := d.delay, depth := d.depth }

end MemoryDisk

end SourceMetrics
