import LayeredFlags.Files.Tree
import LayeredFlags.Proofs.Outcome
/-!
# Following Paths

A path is followed part by part, and every part is a move from a place to a place. Following
arrives at what is there only, since a file or a directory has all directories on the way to it.
It does not go on after a file.

## Main definitions

* `FileTree.Holds`: there is something at a place;
* `FileTree.Follows`: the moves of following.

## Main results

* `FileTree.read_eq_ok_iff`: reading is a look at the place that a path leads to;
* `FileTree.follow_eq_ok_iff`: following makes these moves and no others;
* `FileTree.holds_of_foldlM_follow`: it arrives at what is there;
* `FileTree.eq_of_foldlM_follow`: it does not go on after a file.
-/

namespace LayeredFlags.FileTree

variable {tree : FileTree} {path : String} {bytes : List UInt8}

/-- There is a file or a directory at a place. -/
def Holds (tree : FileTree) (place : List String) : Prop :=
  (tree.file? place).isSome ∨ tree.isDirectory place

/-- One part of a path leads from a place to a place. Every move starts at a place without a
file. -/
inductive Follows (tree : FileTree) (here : List String) : String → List String → Prop where
  /-- A part that adds nothing stays in the directory. -/
  | stay {part : String} (hfile : tree.file? here = none) (h : part = "" ∨ part = ".") :
      Follows tree here part here
  /-- Two dots lead to the directory around a directory. -/
  | up (hfile : tree.file? here = none) : Follows tree here ".." here.dropLast
  /-- A name leads to what has that name in the directory. -/
  | down {part : String} (hfile : tree.file? here = none)
      (hproper : part ≠ "" ∧ part ≠ "." ∧ part ≠ "..") (hsize : part.utf8ByteSize ≤ nameLimit)
      (hholds : tree.Holds (here ++ [part])) : Follows tree here part (here ++ [part])

/-! ## Reading -/

/-- A path is read as the file at the place that it leads to. -/
theorem read_eq_ok_iff :
    tree.read path = .ok bytes ↔
      ∃ place, tree.locate path = .ok place ∧ tree.file? place = some bytes := by
  simp only [read, bind_eq_ok_iff]
  refine exists_congr fun place => and_congr_right fun _ => ?_
  cases hfile : tree.file? place with
  | none => simp
  | some content => simp

/-! ## Directories -/

theorem isDirectory_iff {place : List String} :
    tree.isDirectory place = true ↔
      (∃ made ∈ tree.workingDirectory :: tree.directories, place <+: made) ∨
        ∃ named ∈ tree.files.map (·.1), place <+: named ∧ place ≠ named := by
  simp [isDirectory]

/-- Whatever is on the way to a directory is a directory. -/
theorem isDirectory_of_isPrefix {place further : List String} (h : place <+: further)
    (hfurther : tree.isDirectory further = true) : tree.isDirectory place = true := by
  rw [isDirectory_iff] at hfurther ⊢
  rcases hfurther with ⟨made, hmade, hway⟩ | ⟨named, hnamed, hway, hne⟩
  · exact .inl ⟨made, hmade, h.trans hway⟩
  · refine .inr ⟨named, hnamed, h.trans hway, ?_⟩
    rintro rfl
    exact hne (hway.eq_of_length_le h.length_le)

/-- Every path starts at a directory. -/
theorem isDirectory_start (tree : FileTree) (path : String) :
    tree.isDirectory (tree.start path) = true := by
  have hway : tree.start path <+: tree.workingDirectory := by
    unfold start
    split
    · exact List.nil_prefix
    · exact List.prefix_rfl
  exact isDirectory_iff.2 (.inl ⟨_, List.mem_cons_self, hway⟩)

/-! ## Moves -/

section Following

variable {here there : List String} {part : String} {parts : List String}

/-- There are no other moves. -/
theorem follows_of_follow (h : tree.follow here part = .ok there) :
    tree.Follows here part there := by
  unfold follow at h
  split at h
  · -- from a file there is no move
    cases h
  next hfile =>
  have hnone : tree.file? here = none := Option.not_isSome_iff_eq_none.1 hfile
  split at h
  · next hvoid =>
    cases h
    exact .stay hnone hvoid
  next hvoid =>
  obtain ⟨hempty, hdot⟩ := not_or.1 hvoid
  split at h
  · next hup =>
    subst hup
    cases h
    exact .up hnone
  next hup =>
  -- what is left is a name
  split at h
  · cases h
  next hsize =>
  dsimp only at h
  split at h
  · next hholds =>
    cases h
    exact .down hnone ⟨hempty, hdot, hup⟩ (Nat.not_lt.1 hsize) (by simpa [Holds] using hholds)
  · cases h

/-- Every move is one of following. -/
theorem Follows.follow_eq (h : tree.Follows here part there) :
    tree.follow here part = .ok there := by
  cases h with
  | stay hfile h => simp [follow, hfile, h]
  | up hfile => simp [follow, hfile]
  | down hfile hproper hsize hholds =>
    obtain ⟨hempty, hdot, hup⟩ := hproper
    have hnext : ((tree.file? (here ++ [part])).isSome || tree.isDirectory (here ++ [part])) = true
      := by simpa [Holds] using hholds
    simp [follow, hfile, hempty, hdot, hup, Nat.not_lt.2 hsize, hnext]

theorem follow_eq_ok_iff :
    tree.follow here part = .ok there ↔ tree.Follows here part there :=
  ⟨follows_of_follow, Follows.follow_eq⟩

/-- No move starts at a file. -/
theorem Follows.file?_eq_none (h : tree.Follows here part there) : tree.file? here = none := by
  cases h <;> assumption

/-- Following leads from what is there to what is there. -/
theorem Follows.holds (h : tree.Follows here part there) (hhere : tree.Holds here) :
    tree.Holds there := by
  cases h with
  | stay => exact hhere
  | up hfile =>
    have hdirectory : tree.isDirectory here = true :=
      hhere.resolve_left (by simp [hfile])
    exact .inr (isDirectory_of_isPrefix here.dropLast_prefix hdirectory)
  | down _ _ _ hholds => exact hholds

theorem holds_of_foldlM_follow (hhere : tree.Holds here)
    (h : parts.foldlM tree.follow here = .ok there) : tree.Holds there := by
  induction parts generalizing here with
  | nil =>
    cases h
    exact hhere
  | cons part parts ih =>
    rw [List.foldlM_cons, bind_eq_ok_iff] at h
    obtain ⟨next, hnext, hparts⟩ := h
    exact ih ((follow_eq_ok_iff.1 hnext).holds hhere) hparts

/-- A path does not go on after a file. -/
theorem eq_of_foldlM_follow (hfile : (tree.file? here).isSome)
    (h : parts.foldlM tree.follow here = .ok there) : there = here := by
  cases parts with
  | nil =>
    cases h
    rfl
  | cons part parts =>
    rw [List.foldlM_cons, follow, if_pos hfile] at h
    cases h

end Following

end LayeredFlags.FileTree
