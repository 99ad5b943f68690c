import TransformerEngine.Table

/-!
# File trees

A tree of directories and files, with the answers that a POSIX system gives when a file
is read by path. A path is walked name by name: whatever is not last on it, or has a
slash behind it, must be a directory, and a `..` leaves a directory that must exist. A
path with a slash in front is walked from the root, any other from the tree's own
directory.

There is a directory at every step above the tree's own. Of what lies there, and below
the root, only what has been written is known, and what every system has (`standard`).

* `FileTree.write` makes the directories on a path and puts a file at its end.
* `FileTree.readText` reads a file.
* `FileTree.node?_addDirectory` and `FileTree.node?_addFile` say what a tree holds after
  a step of writing.
-/

namespace TransformerEngine

/-- Why a file could not be read. -/
inductive FileError where
  /-- There is nothing of that name. -/
  | notFound
  /-- A name on the path is no directory. -/
  | notDirectory
  /-- The path leads to a directory. -/
  | isDirectory
  /-- The path, or a name on it, is too long. -/
  | nameTooLong
  /-- The path holds a NUL character. -/
  | nulInName
  /-- The file is no UTF-8 text. -/
  | invalidText
deriving DecidableEq, Repr

/-- The error in words. -/
def FileError.message : FileError → String
  | notFound => "No such file or directory (os error 2)"
  | notDirectory => "Not a directory (os error 20)"
  | isDirectory => "Is a directory (os error 21)"
  | nameTooLong => "File name too long (os error 36)"
  | nulInName => "file name contained an unexpected NUL byte"
  | invalidText => "stream did not contain valid UTF-8"

/-! ### Places -/

/-- Where names lead down from. -/
inductive Anchor where
  /-- The directory so many steps above the tree's own. -/
  | above (steps : Nat)
  /-- The root. -/
  | root
deriving DecidableEq, Repr

/-- Where a directory or a file may be. -/
structure Place where
  /-- Where the names start. -/
  anchor : Anchor
  /-- The names that lead there. -/
  names : List String
deriving DecidableEq, Repr

namespace Place

/-- The longest name, in bytes. -/
def maxNameLength : Nat := 255

/-- The place that a path is walked from. -/
def startOf (path : String) : Place :=
  ⟨if path.toList.head? = some '/' then .root else .above 0, []⟩

/-- The place of the directory that holds a place. The root holds itself. -/
def parent : Place → Place
  | ⟨.root, []⟩ => ⟨.root, []⟩
  | ⟨.above steps, []⟩ => ⟨.above (steps + 1), []⟩
  | ⟨anchor, names⟩ => ⟨anchor, names.dropLast⟩

/-- The place that a name leads to from a directory. -/
def next (place : Place) (name : String) : Except FileError Place :=
  if name = "" || name = "." then .ok place
  else if name = ".." then .ok place.parent
  else if maxNameLength < name.utf8ByteSize then .error .nameTooLong
  else .ok { place with names := place.names ++ [name] }

end Place

/-! ### Trees -/

/-- What is at a place. -/
inductive FileNode where
  /-- A directory. -/
  | directory
  /-- A file. -/
  | file (content : ByteArray)

/-- Directories and files by their places. -/
structure FileTree where
  /-- What is at each place. An anchor is a directory without being listed. -/
  entries : Table Place FileNode := Table.empty

namespace FileTree

/-- The longest path, in bytes. -/
def maxPathLength : Nat := 4095

/-- The tree whose own directory is empty. Below the root stands what every POSIX system
has there and can be read: the directory of devices with the null device, which reads as
an empty file, and the directory for temporary files. -/
def standard : FileTree :=
  ⟨Table.ofList [
    (⟨.root, ["dev"]⟩, .directory),
    (⟨.root, ["dev", "null"]⟩, .file .empty),
    (⟨.root, ["tmp"]⟩, .directory)]⟩

/-- What is at `place`. -/
def node? (tree : FileTree) (place : Place) : Option FileNode :=
  if place.names = [] then some .directory else tree.entries.find? place

/-- Walk one name further from `place`, which must be a directory. What the name leads to
need not exist. -/
def enter (tree : FileTree) (place : Place) (name : String) : Except FileError Place :=
  match tree.node? place with
  | some .directory => place.next name
  | some (.file _) => .error .notDirectory
  | none => .error .notFound

/-! ### Reading -/

/-- The content of the file at `path`. -/
def readBytes (tree : FileTree) (path : String) : Except FileError ByteArray := do
  if path.toList.any (·.toNat = 0) then throw .nulInName
  if path = "" then throw .notFound
  if maxPathLength < path.utf8ByteSize then throw .nameTooLong
  let place ← (path.splitOn "/").foldlM tree.enter (Place.startOf path)
  match tree.node? place with
  | some (.file content) => return content
  | some .directory => throw .isDirectory
  | none => throw .notFound

/-- The text of the file at `path`. -/
def readText (tree : FileTree) (path : String) : Except FileError String := do
  match String.fromUTF8? (← tree.readBytes path) with
  | some text => return text
  | none => throw .invalidText

/-! ### Writing -/

/-- The tree with a directory at `place`, unless something is there. -/
def addDirectory (tree : FileTree) (place : Place) : FileTree :=
  match tree.node? place with
  | some _ => tree
  | none => ⟨tree.entries.insert place .directory⟩

/-- The tree with a file at `place`, unless a directory is there. -/
def addFile (tree : FileTree) (place : Place) (content : ByteArray) : FileTree :=
  match tree.node? place with
  | some .directory => tree
  | _ => ⟨tree.entries.insert place (.file content)⟩

/-- Walk the names from a place and make the directories that are missing, as far as the
names can be walked. -/
def addDirectories : FileTree → Place → List String → FileTree × Except FileError Place
  | tree, place, [] => (tree, .ok place)
  | tree, place, name :: rest =>
    match tree.enter place name with
    | .ok next => addDirectories (tree.addDirectory next) next rest
    | .error error => (tree, .error error)

/-- The names on a path, without those that stay where they are. -/
def namesOf (path : String) : List String :=
  (path.splitOn "/").filter fun name => name ≠ "" && name ≠ "."

/-- The tree with a file written. The directories on its path come into being. Where they
cannot, or the path leads to a directory, no file is written. -/
def write (tree : FileTree) (path : String) (content : ByteArray) : FileTree :=
  let (tree, directory) :=
    tree.addDirectories (Place.startOf path) (namesOf path).dropLast
  match directory.bind fun place => tree.enter place ((path.splitOn "/").getLastD "") with
  | .ok place => tree.addFile place content
  | .error _ => tree

theorem node?_insert (tree : FileTree) {place : Place} (h : place.names ≠ []) (node : FileNode)
    (place' : Place) :
    node? ⟨tree.entries.insert place node⟩ place' =
      if place = place' then some node else tree.node? place' := by
  unfold node?
  by_cases h' : place = place'
  · subst h'
    simp [h]
  · simp [h']

theorem names_ne_nil_of_node? {tree : FileTree} {place : Place}
    (h : tree.node? place ≠ some .directory) : place.names ≠ [] :=
  fun hn => h (by simp [node?, hn])

theorem node?_addDirectory (tree : FileTree) (place place' : Place) :
    (tree.addDirectory place).node? place' =
      if place = place' ∧ tree.node? place' = none then some .directory
      else tree.node? place' := by
  unfold addDirectory
  split
  · next node h =>
    split
    · next hp => rw [← hp.1, h] at hp; simp at hp
    · rfl
  · next h =>
    have hn : place.names ≠ [] := names_ne_nil_of_node? (show tree.node? place ≠ _ by simp [h])
    rw [node?_insert tree hn]
    by_cases h' : place = place'
    · subst h'
      simp [h]
    · simp [h']

theorem addFile_of_directory {tree : FileTree} {place : Place}
    (h : tree.node? place = some .directory) (content : ByteArray) :
    tree.addFile place content = tree := by
  simp [addFile, h]

theorem node?_addFile {tree : FileTree} {place : Place}
    (h : tree.node? place ≠ some .directory) (content : ByteArray) (place' : Place) :
    (tree.addFile place content).node? place' =
      if place = place' then some (.file content) else tree.node? place' := by
  unfold addFile
  split
  · next hd => exact absurd hd h
  · exact node?_insert tree (names_ne_nil_of_node? h) (.file content) place'

end FileTree

end TransformerEngine
