import LayeredFlags.Files.Path
import LayeredFlags.Files.System
/-!
# File Trees

A file tree is a file system without links, in which everything may be read and written: a place
is the list of the names on the way to it from the root. A path starts at the root or at the
working directory and is followed name by name, so that each name before the last has to be a
directory.

The commands run in every file system. Trees are for the runs that are to be computed.
-/

namespace LayeredFlags

/-- The files and directories below a root, by the names on the way to them. -/
structure FileTree where
  /-- The files and their bytes. -/
  files : List (List String × List UInt8)
  /-- Directories that need not hold a file. -/
  directories : List (List String)
  /-- The directory at which a path starts that does not start at the root. -/
  workingDirectory : List String
deriving DecidableEq, Repr

namespace FileTree

/-- The tree without anything in it but a working directory. -/
def empty (workingDirectory : List String := ["work"]) : FileTree := ⟨[], [], workingDirectory⟩

/-- The bytes of the file at a place, if there is one. -/
def file? (tree : FileTree) (place : List String) : Option (List UInt8) :=
  tree.files.lookup place

/-- There is a directory at a place: the working directory, one that was made, or one on the way
to a file or to a directory. -/
def isDirectory (tree : FileTree) (place : List String) : Bool :=
  (tree.workingDirectory :: tree.directories).any (place.isPrefixOf ·) ||
    tree.files.any fun entry => place.isPrefixOf entry.1 && place != entry.1

/-- No name is longer than this many bytes. -/
def nameLimit : Nat := 255

/-- No path is as long as this many bytes. -/
def pathLimit : Nat := 4096

/-- Follow one part of a path. The root is the directory around itself. -/
def follow (tree : FileTree) (place : List String) (part : String) :
    Except FileFault (List String) :=
  if (tree.file? place).isSome then .error .notDirectory
  else if part = "" ∨ part = "." then .ok place
  else if part = ".." then .ok place.dropLast
  else if nameLimit < part.utf8ByteSize then .error .nameTooLong
  else
    let next := place ++ [part]
    if (tree.file? next).isSome || tree.isDirectory next then .ok next
    else .error .notFound

/-- The parts of a path that may be followed. -/
def checkedParts (path : String) : Except FileFault (List String) :=
  if path.toList.contains '\x00' then .error .nulInPath
  else if path.isEmpty then .error .notFound
  else if pathLimit ≤ path.utf8ByteSize then .error .nameTooLong
  else .ok ((Path.parts path.toList).map String.ofList)

/-- Where a path starts. -/
def start (tree : FileTree) (path : String) : List String :=
  if Path.isAbsolute path then [] else tree.workingDirectory

/-- The place that a path leads to. -/
def locate (tree : FileTree) (path : String) : Except FileFault (List String) := do
  (← checkedParts path).foldlM tree.follow (tree.start path)

/-- The bytes of the file that a path names. -/
def read (tree : FileTree) : Reader := fun path => do
  match tree.file? (← tree.locate path) with
  | some bytes => .ok bytes
  | none => .error .isDirectory

/-- The tree with other bytes in the file at a place. -/
def put (tree : FileTree) (place : List String) (bytes : List UInt8) : FileTree :=
  { tree with
    files :=
      if (tree.file? place).isSome then
        tree.files.map fun entry => if entry.1 = place then (place, bytes) else entry
      else tree.files ++ [(place, bytes)] }

/-- What is put at a place is found there. -/
@[simp]
theorem file?_put_self (tree : FileTree) (place : List String) (bytes : List UInt8) :
    (tree.put place bytes).file? place = some bytes := by
  by_cases h : (tree.files.lookup place).isSome
  · rw [put, file?, file?, if_pos h]
    dsimp only
    generalize tree.files = files at h
    induction files with
    | nil => cases h
    | cons entry files ih =>
      obtain ⟨key, value⟩ := entry
      by_cases he : key = place
      · simp [he]
      · have hne : (place == key) = false := by simpa using Ne.symm he
        simp only [List.lookup_cons, hne] at h
        simp [List.lookup_cons, he, hne, ih h]
  · rw [put, file?, file?, if_neg h]
    simp [List.lookup_append, Option.not_isSome_iff_eq_none.1 h]

/-- What is put at a place changes nothing elsewhere. -/
theorem file?_put_of_ne {place other : List String} (h : other ≠ place) (tree : FileTree)
    (bytes : List UInt8) : (tree.put place bytes).file? other = tree.file? other := by
  have hne : (other == place) = false := by simpa using h
  by_cases hfile : (tree.files.lookup place).isSome
  · rw [put, file?, file?, file?, if_pos hfile]
    dsimp only
    clear hfile
    induction tree.files with
    | nil => rfl
    | cons entry files ih =>
      obtain ⟨key, value⟩ := entry
      by_cases he : key = place
      · simp [List.lookup_cons, he, hne, ih]
      · simp [List.lookup_cons, he, ih]
  · rw [put, file?, file?, file?, if_neg hfile]
    simp [List.lookup_append, List.lookup_cons, hne]

/-- The file of a name in the directory at a place is written. -/
def writeAt (tree : FileTree) (place : List String) (name : String) (bytes : List UInt8) :
    Except FileFault FileTree :=
  if (tree.file? place).isSome then .error .notDirectory
  else if nameLimit < name.utf8ByteSize then .error .nameTooLong
  else if tree.isDirectory (place ++ [name]) then .error .isDirectory
  else .ok (tree.put (place ++ [name]) bytes)

/-- Write a file: its whole content is replaced, and no other file changes. A path that ends
with a slash or a dot names a directory. -/
def write (tree : FileTree) (path : String) (bytes : List UInt8) :
    Except FileFault FileTree := do
  let parts ← checkedParts path
  -- Slashes at the end leave empty parts behind.
  let named := (parts.reverse.dropWhile (· == "")).reverse
  let place ← named.dropLast.foldlM tree.follow (tree.start path)
  match named.getLast? with
  | none => .error .isDirectory
  | some name =>
    if named.length < parts.length ∨ name = "." ∨ name = ".." then
      if (tree.file? place).isSome then .error .notDirectory else .error .isDirectory
    else tree.writeAt place name bytes

/-- A file that cannot be written is left as it is. -/
instance : FileSystem FileTree where
  Place := List String
  locate := locate
  content? := file?
  read := read
  write tree path bytes :=
    match tree.write path bytes with
    | .ok written => (.ok (), written)
    | .error fault => (.error fault, tree)

/-- The place of a file that a tree is to be built with. -/
def placeOf (tree : FileTree) (path : String) : List String :=
  tree.start path ++
    ((Path.parts path.toList).filter fun part => !Path.isVoid part).map String.ofList

/-- The tree with one more file, and with the directories on the way to it. -/
def addFile (tree : FileTree) (path : String) (bytes : List UInt8) : FileTree :=
  tree.put (tree.placeOf path) bytes

/-- The tree with one more directory, and with those on the way to it. -/
def addDirectory (tree : FileTree) (path : String) : FileTree :=
  { tree with directories := tree.placeOf path :: tree.directories }

end FileTree

end LayeredFlags
