import SourceMetrics.Disk.Basic

/-!
# Directory trees

A directory tree as a walk sees it: the entries of every directory in ascending order of their
names, and the reason for those directories whose entries cannot be listed. The tree is read off a
disk down to the depth of the disk, so nothing is cut off.

## Main definitions

* `Folder`, `FolderEntry` — the trees
* `Disk.folder` — the tree below a path
-/

namespace SourceMetrics

mutual

/-- A directory: its entries, or why they cannot be listed. -/
inductive Folder where
  | unlistable (error : DiskError)
  | listed (entries : List FolderEntry)

/-- An entry of a directory. -/
inductive FolderEntry where
  | file (name path : String)
  | folder (name path : String) (content : Folder)
  /-- Neither a file nor a directory. -/
  | other (name : String)

end

mutual

/-- The number of directories and entries of a tree. -/
def Folder.size : Folder → Nat
  | .unlistable _ => 1
  | .listed entries => FolderEntry.sizeAll entries + 1

/-- The size of an entry. -/
def FolderEntry.size : FolderEntry → Nat
  | .file _ _ => 1
  | .folder _ _ content => content.size + 1
  | .other _ => 1

/-- The size of a list of entries. -/
def FolderEntry.sizeAll : List FolderEntry → Nat
  | [] => 0
  | e :: rest => e.size + FolderEntry.sizeAll rest

end

/-- Entries in ascending order of their names. -/
def Listed.sorted (entries : List Listed) : List Listed :=
  entries.mergeSort fun a b => decide (a.name ≤ b.name)

namespace Disk

/-- The tree below a path, at most `depth` directories deep. -/
def folderTo (disk : Disk) : Nat → String → Folder
  | 0, _ => .listed []
  | depth + 1, path =>
    match disk.list path with
    | .error e => .unlistable e
    | .ok entries =>
      .listed <| (Listed.sorted entries).map fun e =>
        if e.isDirectory then .folder e.name e.path (disk.folderTo depth e.path)
        else if e.isFile then .file e.name e.path
        else .other e.name

/-- The tree below a path. -/
def folder (disk : Disk) (path : String) : Folder := disk.folderTo (disk.depth + 1) path

end Disk

end SourceMetrics
