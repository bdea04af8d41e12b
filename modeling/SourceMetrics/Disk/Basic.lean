import SourceMetrics.Text.Quoted

/-!
# Disks

A disk answers three questions about a path: how large the file is, what it contains, and what a
directory holds. Each may fail, because of the system or because the path or value is none at all.

## Main definitions

* `SystemCause`, `DiskError` — why a question is not answered
* `Listed` — an entry of a directory
* `Disk` — the answers
-/

namespace SourceMetrics

/-- Why the system refuses. -/
inductive SystemCause where
  | missing
  | inputOutput
  | permission
  | notDirectory
  | isDirectory
  | nameTooLong
  | tooManyLinks
  deriving DecidableEq, Repr

namespace SystemCause

/-- The number of a cause. -/
def code : SystemCause → Nat
  | missing => 2
  | inputOutput => 5
  | permission => 13
  | notDirectory => 20
  | isDirectory => 21
  | nameTooLong => 36
  | tooManyLinks => 40

/-- The description of a cause. -/
def description : SystemCause → String
  | missing => "No such file or directory"
  | inputOutput => "Input/output error"
  | permission => "Permission denied"
  | notDirectory => "Not a directory"
  | isDirectory => "Is a directory"
  | nameTooLong => "File name too long"
  | tooManyLinks => "Too many levels of symbolic links"

end SystemCause

/-- Why a question about a path is not answered. -/
inductive DiskError where
  | system (cause : SystemCause) (path : String)
  /-- The answer is not a proper value. -/
  | badValue
  /-- The path contains a character that no path can have. -/
  | nullByte
  deriving DecidableEq, Repr

namespace DiskError

/-- The message of an error. -/
def message : DiskError → String
  | system cause path => s!"[Errno {cause.code}] {cause.description}: {Text.quoted path}"
  | badValue => "bad value"
  | nullByte => "embedded null byte"

/-- Whether the system refuses. -/
def isSystem : DiskError → Bool
  | system _ _ => true
  | badValue | nullByte => false

/-- Whether there is nothing under the path. -/
def isMissing : DiskError → Bool
  | system .missing _ => true
  | _ => false

end DiskError

/-- An entry of a directory. -/
structure Listed where
  name : String
  path : String
  isDirectory : Bool
  isFile : Bool
  deriving DecidableEq, Repr

/-- Answers about paths. -/
structure Disk where
  /-- The size of a file in bytes. -/
  stat : String → Except DiskError Int
  /-- The content of a file. -/
  read : String → Except DiskError (List UInt8)
  /-- The entries of a directory, in no particular order. -/
  list : String → Except DiskError (List Listed)
  /-- How long reading takes, in milliseconds. -/
  delay : String → Nat := fun _ => 0
  /-- A number that no chain of nested directories exceeds. -/
  depth : Nat

end SourceMetrics
