import LayeredFlags.Proofs.LayerText.OpeningMark
import Mathlib.Tactic.SplitIfs
/-!
# Regions of Lines

The region that a line starts in follows from the lines above, whether they can be read or not.
This file keeps it apart from what the lines say, and it keeps the reading of a stripped line apart
from the test whether the line is a comment as a whole.

## Main definitions

* `regionBehind`: the region behind some lines;
* `readStripped`: reading a line without that test.

## Main results

* `regionBehind_of_runLines`: a run ends in the region behind its lines;
* `readLine_of_ends_in_code`: the test makes no difference to a line that ends in code;
* `runLines_of_not_infix`: lines inside a comment say nothing.
-/

namespace LayeredFlags.LayerText

open Text

variable {number openedOn : Nat} {region after : Region} {raw : List Char}
  {raws : List (List Char)} {here : List Line}

/-! ## Regions of lines -/

/-- The region that the line behind the given one starts in. A literal does not go on there. -/
def nextRegion (number : Nat) (region : Region) (raw : List Char) : Region :=
  if region = .code ∧ isHashComment (trim raw) then .code
  else match (stripComments number region raw).2 with
    | .literal _ => .code
    | after => after

/-- The region behind some lines, whether they can be read or not. -/
def regionBehind (number : Nat) (region : Region) : List (List Char) → Region
  | [] => region
  | raw :: rest => regionBehind (number + 1) (nextRegion number region raw) rest

theorem nextRegion_ne_literal (number : Nat) (region : Region) (raw : List Char) (mark : Char) :
    nextRegion number region raw ≠ .literal mark := by
  unfold nextRegion
  split_ifs
  · exact Region.code_ne_literal mark
  · split
    · exact Region.code_ne_literal mark
    · next hne => exact hne mark

theorem regionBehind_ne_literal (h : ∀ mark, region ≠ .literal mark) (mark : Char) :
    regionBehind number region raws ≠ .literal mark := by
  induction raws generalizing number region with
  | nil => exact h mark
  | cons raw rest ih => exact ih (nextRegion_ne_literal number region raw)

theorem nextRegion_of_readLine (h : readLine number region raw = .ok (here, after)) :
    nextRegion number region raw = after := by
  unfold nextRegion
  rcases readLine_cases h with ⟨hcode, hcomment, -, rfl⟩ | ⟨hskip, hafter, hne, -⟩
  · rw [if_pos ⟨hcode, hcomment⟩]
  · have hhash : ¬ (region = .code ∧ isHashComment (trim raw) = true) := by simpa using hskip
    rw [if_neg hhash, hafter]
    split
    · next mark => exact absurd rfl (hne mark)
    · rfl

/-- A run ends in the region behind its lines. -/
theorem regionBehind_of_runLines (h : runLines number region raws = .ok (here, after)) :
    regionBehind number region raws = after := by
  induction raws generalizing number region here with
  | nil =>
    cases h
    rfl
  | cons raw rest ih =>
    obtain ⟨first, next, there, hline, hrun, rfl⟩ := runLines_cons_eq_ok_iff.1 h
    rw [regionBehind, nextRegion_of_readLine hline]
    exact ih hrun

/-! ## Lines without the test for a comment as a whole -/

/-- Read a line that is stripped already. -/
def readStripped (number : Nat) (stripped : List Char × Region) :
    Except Error (List Line × Region) :=
  match stripped.2 with
  | .literal _ => .error ⟨number, .malformed .openLiteral⟩
  | after => (·, after) <$> readCode number stripped.1

theorem readStripped_of_literal {stripped : List Char × Region} {mark : Char}
    (h : stripped.2 = .literal mark) :
    readStripped number stripped = .error ⟨number, .malformed .openLiteral⟩ := by
  rw [readStripped, h]

theorem readStripped_of_ne_literal {stripped : List Char × Region}
    (h : ∀ mark, stripped.2 ≠ .literal mark) :
    readStripped number stripped = (·, stripped.2) <$> readCode number stripped.1 := by
  rw [readStripped]
  split
  · next mark hmark => exact absurd hmark (h mark)
  · rfl

theorem readLine_eq_readStripped (h : ¬ (region = .code ∧ isHashComment (trim raw) = true)) :
    readLine number region raw = readStripped number (stripComments number region raw) := by
  rw [readLine, if_neg h, readStripped]
  obtain ⟨kept, last⟩ := stripComments number region raw
  dsimp only
  cases last with
  | literal mark => rfl
  | code => cases readCode number kept <;> rfl
  | block openedOn => cases readCode number kept <;> rfl

theorem readLine_block (number openedOn : Nat) (raw : List Char) :
    readLine number (.block openedOn) raw =
      readStripped number (stripComments number (.block openedOn) raw) :=
  readLine_eq_readStripped fun h => Region.code_ne_block openedOn h.1.symm

theorem readCode_of_isHashComment {kept : List Char} (number : Nat)
    (h : isHashComment (trim kept) = true) : readCode number kept = .ok [] := by
  unfold readCode readDirective
  simp [h]

/-- A line that ends in code says what its code says, even if it is a comment as a whole. -/
theorem readLine_of_ends_in_code (h : (stripComments number region raw).2 = .code) :
    readLine number region raw =
      (·, .code) <$> readCode number (stripComments number region raw).1 := by
  by_cases hhash : region = .code ∧ isHashComment (trim raw) = true
  · obtain ⟨rfl, hcomment⟩ := hhash
    rw [readLine_of_isHashComment number hcomment,
      readCode_of_isHashComment number (isHashComment_trim_stripComments number hcomment)]
    rfl
  · rw [readLine_eq_readStripped hhash, readStripped, h]

/-- Behind a line, lines that say nothing add nothing. -/
theorem runLines_cons_of_silent {outcome : Except Error (List Line)}
    (hline : readLine number region raw = (·, after) <$> outcome)
    (hrest : runLines (number + 1) after raws = .ok ([], after)) :
    runLines number region (raw :: raws) = (·, after) <$> outcome := by
  rw [runLines, hline]
  cases outcome with
  | error error => rfl
  | ok said =>
    simp only [map_ok, ok_bind, hrest, List.append_nil]
    rfl

/-- Lines without a closing mark say nothing in a comment and leave it open. -/
theorem runLines_of_not_infix (h : ∀ raw ∈ raws, ¬ ['*', '/'] <:+: raw) :
    runLines number (.block openedOn) raws = .ok ([], .block openedOn) := by
  induction raws generalizing number with
  | nil => rfl
  | cons raw rest ih =>
    have hline : readLine number (.block openedOn) raw = .ok ([], .block openedOn) := by
      rw [readLine_block, stripComments_of_not_infix (h raw List.mem_cons_self)]
      rfl
    have hrest := @ih (number + 1) fun other hmem => h other (List.mem_cons_of_mem raw hmem)
    simp only [runLines, hline, ok_bind, hrest]
    rfl

/-- Empty lines say nothing. -/
theorem runLines_replicate (number n : Nat) :
    runLines number .code (List.replicate n []) = .ok ([], .code) := by
  induction n generalizing number with
  | zero => rfl
  | succ n ih =>
    have hline : readLine number .code [] = .ok ([], .code) := rfl
    simp only [List.replicate_succ, runLines, hline, ok_bind, ih]
    rfl

end LayeredFlags.LayerText
