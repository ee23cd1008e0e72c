import LayeredFlags.Proofs.Files.Following
import Mathlib.Data.List.DropRight
/-!
# Written Files

File trees are lawful file systems. A file that is written holds what was written, under every
path that leads to it, and every other file and directory is as before. That the new file can be
reached rests on the tree: its directory was there before, and writing takes no directory away.
That nothing else can be reached by way of it rests on following, which does not go on after a
file.

## Main definitions

* `FileTree.Target`: a path names a place for a file.

## Main results

* `FileTree.foldlM_follow_put`, `FileTree.foldlM_follow_of_put`: where paths lead after a file
  was put into a directory;
* `FileTree.write_eq_ok_iff`: a file is written exactly when its path has a target;
* `FileTree.Target.replacesAt_put`: what is put at a target replaces one file.
-/

namespace LayeredFlags.FileTree

variable {tree written : FileTree} {path : String} {bytes : List UInt8}

/-- The path names a place for a file: its last part is the name of the file, and the parts
before that lead to a directory. -/
structure Target (tree : FileTree) (path : String) (names : List String) (name : String) :
    Prop where
  /-- The parts before the name lead to the directory. -/
  leads : ∃ parts, checkedParts path = .ok (parts ++ [name]) ∧
    parts.foldlM tree.follow (tree.start path) = .ok names
  /-- The directory is no file. -/
  file?_names : tree.file? names = none
  /-- The name is one. -/
  name_proper : name ≠ "" ∧ name ≠ "." ∧ name ≠ ".."
  /-- The name is not too long. -/
  name_size : name.utf8ByteSize ≤ nameLimit
  /-- There is no directory of that name. -/
  isDirectory_eq_false : tree.isDirectory (names ++ [name]) = false

/-! ## Directories after a file was put into one -/

/-- A file that is put into a tree is named after those that are there, unless it is one of
them. -/
theorem map_fst_put (tree : FileTree) (place : List String) (bytes : List UInt8) :
    (tree.put place bytes).files.map (·.1) =
      if (tree.file? place).isSome then tree.files.map (·.1)
      else tree.files.map (·.1) ++ [place] := by
  rw [put]
  dsimp only
  split
  · rw [List.map_map]
    refine List.map_congr_left fun entry _ => ?_
    by_cases h : entry.1 = place
    · simp [h]
    · simp [h]
  · rw [List.map_append]
    rfl

/-- Paths start where they started before. -/
@[simp]
theorem start_put (tree : FileTree) (place : List String) (bytes : List UInt8) (path : String) :
    (tree.put place bytes).start path = tree.start path := rfl

/-- A file that is put into a directory makes no directory, and takes none away. -/
theorem isDirectory_put {names : List String} (h : tree.isDirectory names = true) (name : String)
    (bytes : List UInt8) (other : List String) :
    (tree.put (names ++ [name]) bytes).isDirectory other = tree.isDirectory other := by
  have hmade : (tree.put (names ++ [name]) bytes).directories = tree.directories := rfl
  have hworking : (tree.put (names ++ [name]) bytes).workingDirectory = tree.workingDirectory :=
    rfl
  rw [Bool.eq_iff_iff, isDirectory_iff, isDirectory_iff, map_fst_put, hmade, hworking]
  split
  · -- the file was there
    rfl
  · constructor
    · rintro (hmade | ⟨named, hnamed, hway, hne⟩)
      · exact .inl hmade
      · rcases List.mem_append.1 hnamed with hnamed | hnamed
        · exact .inr ⟨named, hnamed, hway, hne⟩
        · -- what is on the way to the new file is on the way to its directory
          rw [List.mem_singleton.1 hnamed] at hway hne
          rcases List.prefix_concat_iff.1 hway with heq | hway
          · exact absurd heq hne
          · exact isDirectory_iff.1 (isDirectory_of_isPrefix hway h)
    · rintro (hmade | ⟨named, hnamed, hway⟩)
      · exact .inl hmade
      · exact .inr ⟨named, List.mem_append_left _ hnamed, hway⟩

/-! ## Following after a file was put into a directory -/

section Put

variable {names here there : List String} {name part : String} {parts : List String}

-- the file is put into a directory that is there
variable (hparent : tree.isDirectory names = true)
include hparent

theorem holds_put (bytes : List UInt8) (h : tree.Holds here) :
    (tree.put (names ++ [name]) bytes).Holds here := by
  rcases h with hfile | hdirectory
  · by_cases heq : here = names ++ [name]
    · exact .inl (by rw [heq, file?_put_self, Option.isSome_some])
    · exact .inl (by rwa [file?_put_of_ne heq])
  · exact .inr (by rwa [isDirectory_put hparent])

theorem holds_of_holds_put (h : (tree.put (names ++ [name]) bytes).Holds here)
    (hne : here ≠ names ++ [name]) : tree.Holds here := by
  rwa [Holds, file?_put_of_ne hne, isDirectory_put hparent] at h

/-- A move that does not start at the file is still a move. -/
theorem Follows.put (bytes : List UInt8) (h : tree.Follows here part there)
    (hne : here ≠ names ++ [name]) :
    (tree.put (names ++ [name]) bytes).Follows here part there := by
  have hnone : (tree.put (names ++ [name]) bytes).file? here = none :=
    (file?_put_of_ne hne tree bytes).trans h.file?_eq_none
  cases h with
  | stay _ h => exact .stay hnone h
  | up => exact .up hnone
  | down _ hproper hsize hholds =>
    exact .down hnone hproper hsize (holds_put hparent bytes hholds)

/-- A move that does not lead to the file was a move before. -/
theorem Follows.of_put (h : (tree.put (names ++ [name]) bytes).Follows here part there)
    (hne : there ≠ names ++ [name]) : tree.Follows here part there := by
  have hnone := h.file?_eq_none
  -- no move starts at the file, so that this move starts at a directory of the tree before
  have hhere : here ≠ names ++ [name] := by
    rintro rfl
    simp at hnone
  rw [file?_put_of_ne hhere] at hnone
  cases h with
  | stay _ h => exact .stay hnone h
  | up => exact .up hnone
  | down _ hproper hsize hholds =>
    exact .down hnone hproper hsize (holds_of_holds_put hparent hholds hne)

/-- Whatever was reached before is still reached. -/
theorem foldlM_follow_put (hplace : tree.isDirectory (names ++ [name]) = false)
    (bytes : List UInt8) (hhere : tree.Holds here) (h : parts.foldlM tree.follow here = .ok there) :
    parts.foldlM (tree.put (names ++ [name]) bytes).follow here = .ok there := by
  induction parts generalizing here with
  | nil => exact h
  | cons part parts ih =>
    rw [List.foldlM_cons, bind_eq_ok_iff] at h ⊢
    obtain ⟨next, hnext, hparts⟩ := h
    have hfollows := follow_eq_ok_iff.1 hnext
    have hne : here ≠ names ++ [name] := by
      rintro rfl
      -- there is a file already, and no move starts at a file
      simp [Holds, hplace, hfollows.file?_eq_none] at hhere
    exact ⟨next, (hfollows.put hparent bytes hne).follow_eq, ih (hfollows.holds hhere) hparts⟩

/-- Whatever is reached, other than the file, was reached before: nothing is reached by way of
the file. -/
theorem foldlM_follow_of_put (hne : there ≠ names ++ [name])
    (h : parts.foldlM (tree.put (names ++ [name]) bytes).follow here = .ok there) :
    parts.foldlM tree.follow here = .ok there := by
  induction parts generalizing here with
  | nil => exact h
  | cons part parts ih =>
    rw [List.foldlM_cons, bind_eq_ok_iff] at h ⊢
    obtain ⟨next, hnext, hparts⟩ := h
    have hpassed : next ≠ names ++ [name] := by
      rintro rfl
      exact hne (eq_of_foldlM_follow (by simp) hparts)
    exact ⟨next, ((follow_eq_ok_iff.1 hnext).of_put hparent hpassed).follow_eq, ih hparts⟩

end Put

/-! ## Writing -/

section Writing

variable {names : List String} {name : String}

/-- A file can be put into a directory, under a name that is not too long and no directory's. -/
theorem writeAt_eq_ok_iff :
    tree.writeAt names name bytes = .ok written ↔
      tree.file? names = none ∧ name.utf8ByteSize ≤ nameLimit ∧
      tree.isDirectory (names ++ [name]) = false ∧ written = tree.put (names ++ [name]) bytes := by
  constructor
  · intro h
    unfold writeAt at h
    split at h
    · cases h
    next hfile =>
    split at h
    · cases h
    next hsize =>
    split at h
    · cases h
    next hdirectory =>
    cases h
    exact ⟨Option.not_isSome_iff_eq_none.1 hfile, Nat.not_lt.1 hsize,
      Bool.eq_false_iff.2 hdirectory, rfl⟩
  · rintro ⟨hfile, hsize, hdirectory, rfl⟩
    simp [writeAt, hfile, Nat.not_lt.2 hsize, hdirectory]

/-- A file is written exactly when its path has a target, and it is put there. -/
theorem write_eq_ok_iff :
    tree.write path bytes = .ok written ↔
      ∃ names name, tree.Target path names name ∧ written = tree.put (names ++ [name]) bytes := by
  constructor
  · intro h
    simp only [write, bind_eq_ok_iff] at h
    obtain ⟨parts, hparts, names, hnames, h⟩ := h
    split at h
    · cases h
    next name hlast =>
    split at h
    · -- a path that names a directory is refused wherever it leads
      split at h <;> cases h
    next hproper =>
    obtain ⟨hlength, hproper⟩ := not_or.1 hproper
    obtain ⟨hdot, hup⟩ := not_or.1 hproper
    -- nothing is cut off, so that the path does not end with a slash
    have hwhole : parts.rdropWhile (· == "") = parts :=
      (List.rdropWhile_prefix _ _).eq_of_length_le (Nat.not_lt.1 hlength)
    change (parts.rdropWhile (· == "")).dropLast.foldlM _ _ = _ at hnames
    change (parts.rdropWhile (· == "")).getLast? = _ at hlast
    rw [hwhole] at hnames hlast
    obtain ⟨directories, rfl⟩ := List.getLast?_eq_some_iff.1 hlast
    have hempty : name ≠ "" := by
      rintro rfl
      simpa using List.rdropWhile_eq_self_iff.1 hwhole
    obtain ⟨hfile, hsize, hdirectory, hwritten⟩ := writeAt_eq_ok_iff.1 h
    rw [List.dropLast_concat] at hnames
    exact ⟨names, name, ⟨⟨directories, hparts, hnames⟩, hfile, ⟨hempty, hdot, hup⟩, hsize,
      hdirectory⟩, hwritten⟩
  · rintro ⟨names, name, htarget, rfl⟩
    obtain ⟨parts, hparts, hfollow⟩ := htarget.leads
    obtain ⟨hempty, hdot, hup⟩ := htarget.name_proper
    have hnamed : ((parts ++ [name]).reverse.dropWhile (· == "")).reverse = parts ++ [name] := by
      simp [hempty]
    rw [write, hparts, ok_bind, hnamed]
    dsimp only
    rw [List.dropLast_concat, hfollow, ok_bind]
    simp only [List.getLast?_concat, lt_irrefl, hdot, hup, or_self, if_false]
    exact writeAt_eq_ok_iff.2 ⟨htarget.file?_names, htarget.name_size,
      htarget.isDirectory_eq_false, rfl⟩

/-! ### Where paths lead -/

/-- The directory of a target is one. -/
theorem Target.isDirectory_names (h : tree.Target path names name) :
    tree.isDirectory names = true := by
  obtain ⟨parts, -, hfollow⟩ := h.leads
  have hholds := holds_of_foldlM_follow (.inr (isDirectory_start tree path)) hfollow
  exact hholds.resolve_left (by simp [h.file?_names])

/-- What is put at the target of a path is where the path leads to. -/
theorem Target.locate_put (h : tree.Target path names name) (bytes : List UInt8) :
    (tree.put (names ++ [name]) bytes).locate path = .ok (names ++ [name]) := by
  obtain ⟨parts, hparts, hfollow⟩ := h.leads
  have hfile : (tree.put (names ++ [name]) bytes).file? names = none := by
    rw [file?_put_of_ne (by simp), h.file?_names]
  have hlast : (tree.put (names ++ [name]) bytes).Follows names name (names ++ [name]) :=
    .down hfile h.name_proper h.name_size (.inl (by simp))
  have hparents := foldlM_follow_put h.isDirectory_names h.isDirectory_eq_false bytes
    (.inr (isDirectory_start tree path)) hfollow
  rw [locate, hparts, ok_bind, List.foldlM_append, start_put, hparents, ok_bind,
    List.foldlM_cons, hlast.follow_eq, ok_bind, List.foldlM_nil]
  rfl

/-- A path that led somewhere leads there still. -/
theorem Target.locate_put_of_eq_ok (h : tree.Target path names name) (bytes : List UInt8)
    {other : String} {place : List String} (hother : tree.locate other = .ok place) :
    (tree.put (names ++ [name]) bytes).locate other = .ok place := by
  obtain ⟨parts, hparts, hfollow⟩ := bind_eq_ok_iff.1 hother
  rw [locate, hparts, ok_bind]
  exact foldlM_follow_put h.isDirectory_names h.isDirectory_eq_false bytes
    (.inr (isDirectory_start tree other)) hfollow

/-- A path that leads somewhere else than to the target led there before. -/
theorem Target.locate_of_put (h : tree.Target path names name) {other : String}
    {place : List String}
    (hother : (tree.put (names ++ [name]) bytes).locate other = .ok place)
    (hne : place ≠ names ++ [name]) : tree.locate other = .ok place := by
  obtain ⟨parts, hparts, hfollow⟩ := bind_eq_ok_iff.1 hother
  rw [locate, hparts, ok_bind]
  exact foldlM_follow_of_put h.isDirectory_names hne hfollow

/-- A path that does not lead to the target reads what it read before. -/
theorem Target.read_put_of_ne (h : tree.Target path names name) {other : String}
    (hne : (tree.put (names ++ [name]) bytes).locate other ≠ .ok (names ++ [name]))
    (content : List UInt8) :
    (tree.put (names ++ [name]) bytes).read other = .ok content ↔
      tree.read other = .ok content := by
  rw [read_eq_ok_iff, read_eq_ok_iff]
  constructor
  · rintro ⟨place, hlocate, hfile⟩
    have hplace : place ≠ names ++ [name] := by
      rintro rfl
      exact hne hlocate
    rw [file?_put_of_ne hplace] at hfile
    exact ⟨place, h.locate_of_put hlocate hplace, hfile⟩
  · rintro ⟨place, hlocate, hfile⟩
    have hlocate' := h.locate_put_of_eq_ok bytes hlocate
    have hplace : place ≠ names ++ [name] := by
      rintro rfl
      exact hne hlocate'
    exact ⟨place, hlocate', by rwa [file?_put_of_ne hplace]⟩

/-- A file that is put at the target of a path replaces what was there, and everything else is as
before. -/
theorem Target.replacesAt_put (h : tree.Target path names name) (bytes : List UInt8) :
    FileSystem.ReplacesAt tree (names ++ [name]) bytes (tree.put (names ++ [name]) bytes) where
  content?_eq := file?_put_self tree _ bytes
  content?_of_ne _ hplace := file?_put_of_ne hplace tree bytes
  locate_eq_iff _ _ hplace :=
    ⟨fun hother => h.locate_of_put hother hplace, h.locate_put_of_eq_ok bytes⟩
  read_eq_iff _ hother := h.read_put_of_ne hother

end Writing

/-- File trees are lawful file systems. -/
instance : LawfulFileSystem FileTree where
  content?_of_read _ _ _ h := read_eq_ok_iff.1 h
  replaces_of_write := by
    intro tree after path bytes h
    simp only [FileSystem.write] at h
    split at h
    · next written hwrite =>
      cases h
      obtain ⟨names, name, htarget, rfl⟩ := write_eq_ok_iff.1 hwrite
      exact ⟨names ++ [name], htarget.locate_put bytes, htarget.replacesAt_put bytes⟩
    · cases h

end LayeredFlags.FileTree
