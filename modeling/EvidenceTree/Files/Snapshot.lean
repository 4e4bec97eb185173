import EvidenceTree.Files.Basic

/-!
# File trees in memory

A file tree that is held in memory, as seen from its top directory. A path is followed name by name:
every name but the last has to be a directory, and two dots lead to the directory above. Nothing is
known of what lies outside of the tree.
-/

namespace EvidenceTree

/-- The names from the top directory down to an entry. -/
abbrev Location := List String

/-- The files of a tree, and the directories that have been made as such. -/
structure Snapshot where
  files : List (Location × ByteArray) := []
  directories : List Location := []

namespace Snapshot

/-! ## Entries -/

/-- What is at a location. -/
inductive Entry where
  | file (bytes : ByteArray)
  | directory

/-- There is a directory at the location: one made as such, the top, or one that holds an entry. -/
def isDirectory (snapshot : Snapshot) (location : Location) : Bool :=
  location.isEmpty || snapshot.directories.any location.isPrefixOf ||
    snapshot.files.any fun file => file.1 != location && location.isPrefixOf file.1

/-- What is at a location. -/
def entry? (snapshot : Snapshot) (location : Location) : Option Entry :=
  match snapshot.files.find? fun file => file.1 == location with
  | some file => some (.file file.2)
  | none => if snapshot.isDirectory location then some .directory else none

/-! ## Paths -/

/-- Where a walk along a path stands: at a location, or somewhere outside of the tree. -/
inductive Standing where
  | inside (location : Location)
  | outside

/-- One name of a path further on. An empty name and a dot stay where they are. -/
def Standing.go (snapshot : Snapshot) (standing : Standing) (name : String) :
    Except FileFault Standing :=
  match standing with
  | outside => if name = "" ∨ name = "." ∨ name = ".." then .ok outside else .error .notFound
  | inside location =>
    match snapshot.entry? location with
    | none => .error .notFound
    | some (.file _) => .error .notDirectory
    | some .directory =>
      if name = "" ∨ name = "." then .ok standing
      else if name = ".." then
        .ok (if location.isEmpty then outside else inside location.dropLast)
      else if 255 < name.utf8ByteSize then .error .nameTooLong
      else .ok (inside (location ++ [name]))

/-- The names of a path. -/
def names (path : String) : List String := (path.splitOn "/")

/-- What a path leads to. -/
def lookup (snapshot : Snapshot) (path : String) : Except FileFault Entry := do
  if path.contains '\x00' then throw .nulInPath
  if path.isEmpty then throw .notFound
  if 4096 ≤ path.utf8ByteSize then throw .nameTooLong
  let start := if path.startsWith "/" then Standing.outside else .inside []
  match ← (names path).foldlM (fun standing name => standing.go snapshot name) start with
  | .outside => .ok .directory
  | .inside location =>
    match snapshot.entry? location with
    | some entry => .ok entry
    | none => .error .notFound

/-- The location that a path names when it is written to, dots resolved by name alone. -/
def location (path : String) : Location :=
  (names path).foldl
    (fun location name =>
      if name = "" ∨ name = "." then location
      else if name = ".." then location.dropLast
      else location ++ [name])
    []

/-! ## Changes -/

/-- The tree with a file at a path, in place of an earlier one. -/
def write (snapshot : Snapshot) (path : String) (bytes : ByteArray) : Snapshot :=
  { snapshot with
    files := (location path, bytes) :: snapshot.files.filter fun file => file.1 != location path }

/-- The tree with a directory at a path. -/
def makeDirectory (snapshot : Snapshot) (path : String) : Snapshot :=
  { snapshot with directories := location path :: snapshot.directories }

/-- The tree without the file at a path. Its directory stays. -/
def remove (snapshot : Snapshot) (path : String) : Snapshot where
  files := snapshot.files.filter fun file => file.1 != location path
  directories := (location path).dropLast :: snapshot.directories

/-! ## As a file system -/

/-- What is seen of the tree. -/
def fileSystem (snapshot : Snapshot) : FileSystem where
  openFile path := (snapshot.lookup path).map fun
    | .file bytes => .content bytes
    | .directory => .unreadable .isDirectory
  present path := (snapshot.lookup path).toBool

end Snapshot

end EvidenceTree
