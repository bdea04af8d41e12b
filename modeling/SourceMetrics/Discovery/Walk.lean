import SourceMetrics.Discovery.Filter
import SourceMetrics.Discovery.Folder
import SourceMetrics.Ignore.Rule
import SourceMetrics.Number.Total
import SourceMetrics.Settings.Options
import SourceMetrics.Text.Line
import SourceMetrics.Text.Utf8

/-!
# Discovery of files

The files below a directory that are to be analysed. The walk keeps a stack of directories: the
files of the topmost come next, and its directories go on top of the stack in the order of their
names. A directory that the system does not list contributes nothing.

Ignore rules come from the settings and from the file of rules in the root directory, which need not
be there. What the lines of rules mean is settled elsewhere: the walk goes by any reading of them.

## Main definitions

* `Folder.walk` — the files of a stack of directories
* `IgnoreReader` — a reading of ignore rules
* `IgnoreSpec.ofSettings` — what is left out below a root
* `Disk.findFiles` — the files below a root
-/

namespace SourceMetrics

namespace FolderEntry

/-- The path of a file that is analysed. -/
def keptFile? (f : FileFilter) (above : String) : FolderEntry → Option String
  | .file name path => if f.keepsFile path (above ++ name) then some path else none
  | .folder _ _ _ => none
  | .other _ => none

/-- A directory that is looked into, with the path that its entries are relative to. -/
def keptFolder? (f : FileFilter) (above : String) : FolderEntry → Option (String × Folder)
  | .file _ _ => none
  | .folder name _ content =>
    if f.keepsDirectory name (above ++ name) then some (above ++ name ++ "/", content) else none
  | .other _ => none

/-- The paths of the files that are analysed. -/
def keptFiles (f : FileFilter) (above : String) (entries : List FolderEntry) : List String :=
  entries.filterMap (keptFile? f above)

/-- The directories that are looked into. -/
def keptFolders (f : FileFilter) (above : String) (entries : List FolderEntry) :
    List (String × Folder) :=
  entries.filterMap (keptFolder? f above)

end FolderEntry

namespace Folder

/-- The size of a stack of directories. -/
def pendingSize (pending : List (String × Folder)) : Nat :=
  Number.total (pending.map fun p => p.2.size)

/-- The directories that are looked into are smaller than the directory they lie in. -/
theorem pendingSize_keptFolders (f : FileFilter) (above : String) (entries : List FolderEntry) :
    pendingSize (FolderEntry.keptFolders f above entries) ≤ FolderEntry.sizeAll entries := by
  induction entries with
  | nil => simp [pendingSize, FolderEntry.keptFolders, FolderEntry.sizeAll]
  | cons e rest ih =>
    simp only [pendingSize, FolderEntry.keptFolders] at ih
    cases e with
    | file name path =>
      simp only [pendingSize, FolderEntry.keptFolders, List.filterMap_cons, FolderEntry.keptFolder?,
        FolderEntry.sizeAll]
      omega
    | other name =>
      simp only [pendingSize, FolderEntry.keptFolders, List.filterMap_cons, FolderEntry.keptFolder?,
        FolderEntry.sizeAll]
      omega
    | folder name path content =>
      simp only [pendingSize, FolderEntry.keptFolders, List.filterMap_cons, FolderEntry.keptFolder?,
        FolderEntry.sizeAll, FolderEntry.size]
      by_cases kept : f.keepsDirectory name (above ++ name) = true
      · simp only [kept, if_true, List.map_cons, Number.total_cons]
        omega
      · simp only [kept, if_false, Bool.false_eq_true]
        omega

/-- The files of a stack of directories, each with the path that its entries are relative to. -/
def walk (f : FileFilter) (pending : List (String × Folder)) : Except DiskError (List String) :=
  match pending with
  | [] => .ok []
  | (_, .unlistable e) :: rest => if e.isSystem then walk f rest else .error e
  | (above, .listed entries) :: rest =>
    (walk f (FolderEntry.keptFolders f above entries ++ rest)).map
      (FolderEntry.keptFiles f above entries ++ ·)
termination_by pendingSize pending
decreasing_by
  · simp only [pendingSize, List.map_cons, Number.total_cons, Folder.size]
    omega
  · have := pendingSize_keptFolders f above entries
    simp only [pendingSize, List.map_append, Number.total_append, List.map_cons, Number.total_cons,
      Folder.size] at *
    omega

end Folder

/-- Why the files below a root are not found. -/
inductive FindError where
  | disk (error : DiskError)
  | ignore (error : IgnoreError)
  deriving DecidableEq, Repr

/-- The message of an error. -/
def FindError.message : FindError → String
  | disk error => error.message
  | ignore error => error.message

/-- Where the file of ignore rules of a root is. -/
def gitignorePath (root : String) : String :=
  let plain := Path.plain root
  if plain = "." then ".gitignore" else Path.join plain ".gitignore"

/-- The lines of the file of ignore rules; there are none if the system does not let it be read. -/
def Disk.gitignoreLines (disk : Disk) (root : String) : Except DiskError (List String) :=
  match disk.read (gitignorePath root) with
  | .ok bytes => .ok ((Text.lines (Utf8.decode bytes)).map String.ofList)
  | .error e => if e.isSystem then .ok [] else .error e

/-- The texts among patterns, if all patterns are texts. -/
def patternTexts : List Json → Except IgnoreError (List String)
  | [] => .ok []
  | .str s :: rest => (patternTexts rest).map (s :: ·)
  | other :: _ => .error (.notText other.typeName)

/-- A reading of ignore rules: the paths, relative to the root, that lines leave out, or what is
wrong with the lines. -/
abbrev IgnoreReader := List String → Except IgnoreError (String → Bool)

/-- What is left out, if there are any rules. -/
abbrev IgnoreSpec := Option (String → Bool)

namespace IgnoreSpec

/-- What patterns leave out. Blank patterns and comments are no rules. -/
def ofPatterns (reader : IgnoreReader) (patterns : List Json) : Except IgnoreError IgnoreSpec := do
  let lines := IgnoreRules.effective (← patternTexts patterns)
  if lines.isEmpty then return none
  return some (← reader lines)

/-- Whether a path is left out; without rules none is. -/
def leavesOut (spec : IgnoreSpec) (path : String) : Bool :=
  match spec with
  | none => false
  | some ignored => ignored path

/-- What is left out below a root. -/
def ofSettings (reader : IgnoreReader) (settings : Settings) (disk : Disk) (root : String) :
    Except FindError IgnoreSpec := do
  let lines ← if settings.useGitignore then
      (disk.gitignoreLines root).mapError FindError.disk
    else pure []
  (ofPatterns reader (settings.ignorePatterns ++ lines.map Json.str)).mapError .ignore

end IgnoreSpec

/-- The files below a root that are to be analysed. -/
def Disk.findFiles (disk : Disk) (reader : IgnoreReader) (settings : Settings) (registry : Registry)
    (root : String) : Except FindError (List String) := do
  let spec ← IgnoreSpec.ofSettings reader settings disk root
  let filter : FileFilter := { settings, registry, ignored := spec.leavesOut }
  (Folder.walk filter [("", disk.folder root)]).mapError .disk

/-- The files that finding files reads. -/
def findReads (settings : Settings) (root : String) : List String :=
  if settings.useGitignore then [gitignorePath root] else []

end SourceMetrics
