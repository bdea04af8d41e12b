import SourceMetrics.CommandLine.Help
import SourceMetrics.CommandLine.Run

/-!
# The command

The command takes a picture of the files and directories that its arguments name, hands it to
`runCommand` together with the environment, and prints the answer. Links are followed where an
argument names them and where they lead to files; other links stay without a target.

## Main definitions

* `Snapshot.ofPaths` — the picture of some paths
* `main` — the command
-/

namespace SourceMetrics

namespace Snapshot

/-- The bytes of a file, or none if it cannot be read. -/
def bytes (path : String) : IO (List UInt8) := do
  try return (← IO.FS.readBinFile path).toList
  catch _ => return []

/-- Whether the content of a file below a directory can be asked for. -/
def isNeeded (path : String) : Bool :=
  Path.name path = ".gitignore" || (Registry.standard.byPath? path).isSome

/-- The picture of a directory and what is below it. -/
partial def directory (path : String) : IO VolumeNode := do
  let mut entries : List (String × VolumeNode) := []
  let listing ← try (((← IO.currentDir) / path).readDir) catch _ => pure #[]
  for entry in listing do
    let inner := Path.join path entry.fileName
    let kind : Option IO.FS.FileType ←
      try pure (some (← entry.path.symlinkMetadata).type) catch _ => pure none
    let node ← match kind with
      | some .dir => directory inner
      | some .file =>
        if isNeeded inner then .file <$> bytes inner else pure (.file [])
      | _ =>
        if (← entry.path.pathExists) && !(← entry.path.isDir) then .file <$> bytes inner
        else pure (.link "")
    entries := (entry.fileName, node) :: entries
  return .directory entries

/-- The names that lead to a path from the top, with steps upwards carried out. -/
def way (home : List String) (path : String) : List String :=
  let start := if path.startsWith "/" then [] else home
  (Path.components path).foldl
    (fun names name => if name = ".." then names.dropLast else names ++ [name]) start

/-- The picture of some paths, seen from a directory. -/
def ofPaths (home : List String) (paths : List String) : IO Volume := do
  let mut top := VolumeNode.place (.directory []) (.directory []) home
  for path in paths do
    let target := (← IO.currentDir) / path
    if ← target.isDir then
      top := .place (← directory path) top (way home path)
    else if ← target.pathExists then
      top := .place (.file (← bytes path)) top (way home path)
  return { top, home }

end Snapshot

/-- The values of the variables that settings depend on. -/
def readEnvironment : IO Environment := do
  let mut env : Environment := {}
  for name in Environment.names do
    if let some value ← IO.getEnv name then
      env := env.insert name value
  return env

end SourceMetrics

open SourceMetrics in
/-- Carries out a command line. -/
def main (arguments : List String) : IO UInt32 := do
  let home := Path.components (← IO.currentDir).toString
  let paths := match Request.parse arguments with
    | .ok request => request.config.toList ++ request.paths
    | .error _ => []
  let volume ← Snapshot.ofPaths home paths
  match runCommand .standard arguments (← readEnvironment) volume with
  | .ok .help =>
    IO.print helpText
    return 0
  | .ok (.usage error) =>
    IO.eprintln usageLine
    IO.eprintln error.complaint
    return 2
  | .ok (.finished code output) =>
    IO.print output
    return code.toUInt32
  | .error error =>
    IO.eprintln error.message
    return 1
