import LayeredFlags.Text.Utf8
/-!
# File Systems

Files are read and written under the names that paths give them. Nothing is assumed of how a path
is followed but that it leads to a place, where there may be a file, and that two paths may lead
to the same place. What is assumed of a write that succeeds is that it replaces the content of one
file. Of a write that fails nothing is assumed: it may have come half way.

## Main definitions

* `FileFault`: why a file cannot be read or written;
* `Reader`, `FileSystem`: what the program asks of the files;
* `FileSystem.Replaces`: what a write that succeeds does to a system;
* `LawfulFileSystem`: the systems whose files behave like that.

## Main results

* `FileSystem.Replaces.eq_of_read`: what was written is what is read, under each name of the file.
-/

namespace LayeredFlags

/-- Why a file cannot be read or written. -/
inductive FileFault where
  /-- There is no file of that name. -/
  | notFound
  /-- The path goes on after the name of a file. -/
  | notDirectory
  /-- The path names a directory. -/
  | isDirectory
  /-- The path, or a name in it, is too long. -/
  | nameTooLong
  /-- The path holds the character NUL. -/
  | nulInPath
  /-- The file is to be read as text and is not UTF-8. -/
  | notUtf8
  /-- Anything else, in the words of the system. -/
  | other (text : String)
deriving DecidableEq, Repr

/-- The wording of a fault. -/
def FileFault.message : FileFault → String
  | .notFound => "No such file or directory (os error 2)"
  | .notDirectory => "Not a directory (os error 20)"
  | .isDirectory => "Is a directory (os error 21)"
  | .nameTooLong => "File name too long (os error 36)"
  | .nulInPath => "file name contained an unexpected NUL byte"
  | .notUtf8 => "stream did not contain valid UTF-8"
  | .other text => text

/-! ## Reading -/

/-- How files are read: the bytes of the file that a path names. -/
abbrev Reader := String → Except FileFault (List UInt8)

/-- Read a file as text. -/
def readText (read : Reader) (path : String) : Except FileFault String :=
  match read path with
  | .error fault => .error fault
  | .ok bytes =>
    match Utf8.decode? bytes with
    | some text => .ok text
    | none => .error .notUtf8

/-! ## Writing -/

/-- The files of a system in one of its states. -/
class FileSystem (σ : Type) where
  /-- What paths lead to. A file has one place and any number of paths. -/
  Place : Type
  /-- The place that a path leads to. -/
  locate : σ → String → Except FileFault Place
  /-- The bytes of the file at a place, if there is one. -/
  content? : σ → Place → Option (List UInt8)
  /-- Read the file that a path names. -/
  read : σ → Reader
  /-- Write a file, and tell the state that the system is in afterwards. -/
  write : σ → String → List UInt8 → Except FileFault Unit × σ

namespace FileSystem

variable {σ : Type} [FileSystem σ]

/-- The file at a place has the given bytes, and nothing else is other than before. -/
structure ReplacesAt (system : σ) (place : Place σ) (bytes : List UInt8) (after : σ) : Prop where
  /-- The file at the place has these bytes. -/
  content?_eq : content? after place = some bytes
  /-- At every other place there is the same file as before, or still none. -/
  content?_of_ne : ∀ other, other ≠ place → content? after other = content? system other
  /-- To every other place lead the same paths as before. -/
  locate_eq_iff : ∀ path other, other ≠ place →
    (locate after path = .ok other ↔ locate system path = .ok other)
  /-- A path that does not lead to the place is read as before. -/
  read_eq_iff : ∀ path, locate after path ≠ .ok place →
    ∀ content, read after path = .ok content ↔ read system path = .ok content

/-- The file that a path names has the given bytes, under each of its names, and nothing else is
other than before. -/
def Replaces (system : σ) (path : String) (bytes : List UInt8) (after : σ) : Prop :=
  ∃ place, locate after path = .ok place ∧ ReplacesAt system place bytes after

end FileSystem

/-- The files of the system behave like files. -/
class LawfulFileSystem (σ : Type) [FileSystem σ] : Prop where
  /-- What is read is what there is at the place that the path leads to. Not every file may be
  read. -/
  content?_of_read : ∀ (system : σ) path bytes, FileSystem.read system path = .ok bytes →
    ∃ place, FileSystem.locate system path = .ok place ∧
      FileSystem.content? system place = some bytes
  /-- A write that succeeds replaces the content of one file. -/
  replaces_of_write : ∀ (system after : σ) path bytes,
    FileSystem.write system path bytes = (.ok (), after) →
      FileSystem.Replaces system path bytes after

/-- Whoever reads a file that was replaced reads its new content, under each of its names. -/
theorem FileSystem.Replaces.eq_of_read {σ : Type} [FileSystem σ] [LawfulFileSystem σ]
    {system after : σ} {path name : String} {bytes content : List UInt8}
    (h : Replaces system path bytes after) (hname : locate after name = locate after path)
    (hread : read after name = .ok content) : content = bytes := by
  obtain ⟨place, hplace, hreplaces⟩ := h
  obtain ⟨found, hfound, hcontent⟩ := LawfulFileSystem.content?_of_read after name content hread
  rw [hname, hplace] at hfound
  cases hfound
  exact Option.some.inj (hcontent.symm.trans hreplaces.content?_eq)

end LayeredFlags
