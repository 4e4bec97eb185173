/-!
# File systems

What a program sees of a file system: whether something is at a path, and what comes of opening it.
A directory can be opened but not read.
-/

namespace EvidenceTree

/-- Why a file cannot be opened or read. -/
inductive FileFault where
  | notFound
  | notDirectory
  | isDirectory
  | nameTooLong
  | nulInPath
  | other (text : String)
  deriving DecidableEq

/-- The words for a file fault. -/
def FileFault.message : FileFault → String
  | notFound => "No such file or directory (os error 2)"
  | notDirectory => "Not a directory (os error 20)"
  | isDirectory => "Is a directory (os error 21)"
  | nameTooLong => "File name too long (os error 36)"
  | nulInPath => "file name contained an unexpected NUL byte"
  | other text => text

/-- A file that was opened: its bytes, or why they cannot be read. -/
inductive Opened where
  | content (bytes : ByteArray)
  | unreadable (fault : FileFault)

/-- What is seen of a file system. -/
structure FileSystem where
  openFile : String → Except FileFault Opened
  present : String → Bool

/-- The bytes of the file at a path. -/
def FileSystem.read (fs : FileSystem) (path : String) : Except FileFault ByteArray := do
  match ← fs.openFile path with
  | .content bytes => .ok bytes
  | .unreadable fault => .error fault

end EvidenceTree
