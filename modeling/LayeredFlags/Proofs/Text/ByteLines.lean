import LayeredFlags.Proofs.Text.Encoding
import LayeredFlags.Proofs.Text.FirstLine
/-!
# Lines of Bytes

The line feed is a byte of its own, and no other character has that byte. Bytes can therefore be
split at their line feeds before they are decoded. They are a text exactly if each stretch between
two line feeds is one by itself, the lines of the text are made of these stretches, and decoding
stops on the line of the first stretch that is none.

## Main definitions

* `Text.ofStretches`: the lines that stretches between line feeds make;
* `Utf8.LinesOf`: the lines of some bytes;
* `Utf8.FirstBroken`: the number of the first line whose bytes are no text.

## Main results

* `Text.lines_eq_ofStretches`: the lines of a text are made of its stretches;
* `Utf8.isText_iff_forall_mem_splitOn`: a text is one text between any two line feeds;
* `Utf8.firstBroken_iff`: decoding stops on the first line whose bytes are no text;
* `Utf8.linesOf_toUTF8`: the lines of a text are those of its bytes.
-/

namespace LayeredFlags

/-! ## Splitting -/

section Splitting

variable {α : Type} [DecidableEq α] {mark : α}

/-- A list is one stretch without the mark, or it is a stretch, the mark and another list. -/
theorem splitOn_induction {motive : List α → Prop}
    (last : ∀ stretch, mark ∉ stretch → motive stretch)
    (ended : ∀ stretch rest, mark ∉ stretch → motive rest → motive (stretch ++ mark :: rest))
    (items : List α) : motive items := by
  induction hlength : items.length using Nat.strongRecOn generalizing items with
  | ind length ih =>
    by_cases hmem : mark ∈ items
    · obtain ⟨stretch, rest, rfl, hstretch⟩ := List.eq_append_cons_of_mem hmem
      refine ended stretch rest hstretch (ih rest.length ?_ rest rfl)
      rw [← hlength, List.length_append, List.length_cons]
      omega
    · exact last items hmem

end Splitting

/-! ## Lines of a text -/

namespace Text

/-- The lines that stretches between line feeds make. All but the last stretch are ended by a line
feed, which takes a carriage return along. The last one is no line if it is empty. -/
def ofStretches : List (List Char) → List (List Char)
  | [] => []
  | [last] => if last = [] then [] else [last]
  | stretch :: next :: others => dropReturn stretch :: ofStretches (next :: others)

theorem ofStretches_cons {others : List (List Char)} (h : others ≠ []) (stretch : List Char) :
    ofStretches (stretch :: others) = dropReturn stretch :: ofStretches others := by
  obtain ⟨next, others, rfl⟩ := List.exists_cons_of_ne_nil h
  rw [ofStretches]

/-- The lines of a text are made of the stretches between its line feeds. -/
theorem lines_eq_ofStretches (text : List Char) :
    lines text = ofStretches (text.splitOn '\n') := by
  induction text using @splitOn_induction _ _ '\n' with
  | last stretch hlf =>
    rw [List.splitOn_eq_singleton hlf, ofStretches]
    split
    · next hnil => rw [hnil, lines]
    · next hne => exact lines_eq_singleton hne hlf
  | ended stretch rest hlf ih =>
    rw [lines_append_lineFeed hlf, List.splitOn_append_cons_self_of_not_mem hlf,
      ofStretches_cons (List.splitOn_ne_nil _ _), ih]

end Text

namespace Utf8

/-- The lines of the bytes: each stretch between line feeds is a text by itself, and these texts
make the lines. -/
def LinesOf (bytes : List UInt8) (raws : List (List Char)) : Prop :=
  ∃ texts : List String, texts.map (·.toUTF8.toList) = bytes.splitOn 0x0A ∧
    Text.ofStretches (texts.map (·.toList)) = raws

/-- The line of that number, counted from one, is the first whose bytes are no text. -/
def FirstBroken (bytes : List UInt8) (number : Nat) : Prop :=
  ∃ above stretch below, bytes.splitOn 0x0A = above ++ stretch :: below ∧
    above.length + 1 = number ∧ (∀ other ∈ above, IsText other) ∧ ¬ IsText stretch

variable {bytes stretch rest : List UInt8} {chars : List Char} {number : Nat}

/-! ## The byte of the line feed -/

theorem utf8EncodeChar_lineFeed : String.utf8EncodeChar '\n' = [0x0A] := rfl

theorem lineFeed_mem_flatMap_iff :
    (0x0A : UInt8) ∈ chars.flatMap String.utf8EncodeChar ↔ '\n' ∈ chars := by
  rw [← List.count_pos_iff, count_flatMap, List.count_pos_iff]

/-- Bytes of characters are split where the characters are. -/
theorem splitOn_flatMap (chars : List Char) :
    (chars.flatMap String.utf8EncodeChar).splitOn 0x0A =
      (chars.splitOn '\n').map (·.flatMap String.utf8EncodeChar) := by
  induction chars using @splitOn_induction _ _ '\n' with
  | last stretch hlf =>
    rw [List.splitOn_eq_singleton hlf,
      List.splitOn_eq_singleton (mt lineFeed_mem_flatMap_iff.1 hlf), List.map_singleton]
  | ended stretch rest hlf ih =>
    rw [List.flatMap_append, List.flatMap_cons, utf8EncodeChar_lineFeed, List.singleton_append,
      List.splitOn_append_cons_self_of_not_mem hlf,
      List.splitOn_append_cons_self_of_not_mem (mt lineFeed_mem_flatMap_iff.1 hlf), ih,
      List.map_cons]

/-! ## Texts between line feeds -/

theorem isText_iff_flatMap :
    IsText bytes ↔ ∃ chars : List Char, chars.flatMap String.utf8EncodeChar = bytes := by
  constructor
  · rintro ⟨text, rfl⟩
    exact ⟨text.toList, (toList_toUTF8 text).symm⟩
  · rintro ⟨chars, rfl⟩
    exact ⟨String.ofList chars, by rw [toList_toUTF8, String.toList_ofList]⟩

/-- Texts with a line feed between them are a text. -/
theorem IsText.append_lineFeed (hstretch : IsText stretch) (hrest : IsText rest) :
    IsText (stretch ++ 0x0A :: rest) := by
  obtain ⟨chars, rfl⟩ := isText_iff_flatMap.1 hstretch
  obtain ⟨others, rfl⟩ := isText_iff_flatMap.1 hrest
  refine isText_iff_flatMap.2 ⟨chars ++ '\n' :: others, ?_⟩
  rw [List.flatMap_append, List.flatMap_cons, utf8EncodeChar_lineFeed, List.singleton_append]

/-- Bytes are a text exactly if each stretch between line feeds is one. -/
theorem isText_iff_forall_mem_splitOn :
    IsText bytes ↔ ∀ stretch ∈ bytes.splitOn 0x0A, IsText stretch := by
  constructor
  · intro h stretch hmem
    obtain ⟨chars, rfl⟩ := isText_iff_flatMap.1 h
    rw [splitOn_flatMap] at hmem
    obtain ⟨piece, -, rfl⟩ := List.mem_map.1 hmem
    exact isText_iff_flatMap.2 ⟨piece, rfl⟩
  · intro h
    induction bytes using @splitOn_induction _ _ (0x0A : UInt8) with
    | last stretch hlf =>
      rw [List.splitOn_eq_singleton hlf] at h
      exact h stretch List.mem_cons_self
    | ended stretch rest hlf ih =>
      rw [List.splitOn_append_cons_self_of_not_mem hlf, List.forall_mem_cons] at h
      exact h.1.append_lineFeed (ih h.2)

theorem isText_append_lineFeed_iff (hlf : (0x0A : UInt8) ∉ stretch) :
    IsText (stretch ++ 0x0A :: rest) ↔ IsText stretch ∧ IsText rest := by
  rw [isText_iff_forall_mem_splitOn, List.splitOn_append_cons_self_of_not_mem hlf,
    List.forall_mem_cons, ← isText_iff_forall_mem_splitOn]

/-! ## Where decoding stops -/

/-- Behind a text decoding stops as many lines further down as the text has line feeds. -/
theorem stopLine_flatMap_append (chars : List Char) (rest : List UInt8) :
    stopLine (chars.flatMap String.utf8EncodeChar ++ rest) = chars.count '\n' + stopLine rest := by
  rw [stopLine, stopLine, decode_flatMap_append, List.count_append, Nat.add_assoc]

/-- Decoding stops on the first line if it takes no line feed. -/
theorem stopLine_eq_one (h : '\n' ∉ (decode bytes).1) : stopLine bytes = 1 := by
  rw [stopLine, List.count_eq_zero_of_not_mem h]

theorem stopLine_of_not_mem (hlf : (0x0A : UInt8) ∉ bytes) : stopLine bytes = 1 := by
  refine stopLine_eq_one fun hmem => hlf ?_
  rw [← flatMap_decode_append bytes]
  exact List.mem_append_left _ (lineFeed_mem_flatMap_iff.2 hmem)

/-- Behind a line that is a text decoding goes on. -/
theorem stopLine_append_of_isText (hlf : (0x0A : UInt8) ∉ stretch) (h : IsText stretch) :
    stopLine (stretch ++ 0x0A :: rest) = stopLine rest + 1 := by
  obtain ⟨chars, rfl⟩ := isText_iff_flatMap.1 h
  have hstart : chars.flatMap String.utf8EncodeChar ++ 0x0A :: rest =
      (chars ++ ['\n']).flatMap String.utf8EncodeChar ++ rest := by
    rw [List.flatMap_append, List.append_assoc]
    rfl
  rw [hstart, stopLine_flatMap_append, List.count_append,
    List.count_eq_zero_of_not_mem (mt lineFeed_mem_flatMap_iff.2 hlf), List.count_singleton_self,
    Nat.zero_add, Nat.add_comm]

/-- It stops on a line that is no text. -/
theorem stopLine_append_of_not_isText (hlf : (0x0A : UInt8) ∉ stretch) (h : ¬ IsText stretch) :
    stopLine (stretch ++ 0x0A :: rest) = 1 := by
  refine stopLine_eq_one fun hmem => h ?_
  -- what is taken in front of a line feed would be the line
  obtain ⟨before, behind, hchars, hbefore⟩ := List.eq_append_cons_of_mem hmem
  have htaken := flatMap_decode_append (stretch ++ 0x0A :: rest)
  rw [hchars, List.flatMap_append, List.flatMap_cons, utf8EncodeChar_lineFeed,
    List.singleton_append, List.append_assoc, List.cons_append] at htaken
  have hsplit := congrArg (List.splitOn 0x0A) htaken
  rw [List.splitOn_append_cons_self_of_not_mem (mt lineFeed_mem_flatMap_iff.1 hbefore),
    List.splitOn_append_cons_self_of_not_mem hlf] at hsplit
  exact isText_iff_flatMap.2 ⟨before, (List.cons.inj hsplit).1⟩

/-- Decoding stops on the first line whose bytes are no text. -/
theorem firstBroken_stopLine (h : ¬ IsText bytes) : FirstBroken bytes (stopLine bytes) := by
  -- induction on the lines: either the first one is no text, or the break is further down
  induction bytes using @splitOn_induction _ _ (0x0A : UInt8) with
  | last stretch hlf =>
    rw [stopLine_of_not_mem hlf]
    exact ⟨[], stretch, [], List.splitOn_eq_singleton hlf, rfl, List.forall_mem_nil _, h⟩
  | ended stretch rest hlf ih =>
    rw [isText_append_lineFeed_iff hlf] at h
    have hsplit := List.splitOn_append_cons_self_of_not_mem hlf rest
    by_cases hstretch : IsText stretch
    · obtain ⟨above, broken, below, hrest, hnumber, habove, hbroken⟩ :=
        ih fun hrest => h ⟨hstretch, hrest⟩
      rw [stopLine_append_of_isText hlf hstretch, ← hnumber]
      exact ⟨stretch :: above, broken, below, by rw [hsplit, hrest, List.cons_append], rfl,
        List.forall_mem_cons.2 ⟨hstretch, habove⟩, hbroken⟩
    · rw [stopLine_append_of_not_isText hlf hstretch]
      exact ⟨[], stretch, _, hsplit, rfl, List.forall_mem_nil _, hstretch⟩

theorem FirstBroken.not_isText (h : FirstBroken bytes number) : ¬ IsText bytes := by
  obtain ⟨above, stretch, below, hsplit, -, -, hbroken⟩ := h
  rw [isText_iff_forall_mem_splitOn, hsplit]
  exact fun hall => hbroken (hall stretch (by simp))

/-- There is one first line only. -/
theorem FirstBroken.unique {other : Nat} (h : FirstBroken bytes number)
    (h' : FirstBroken bytes other) : number = other := by
  obtain ⟨above, stretch, below, hsplit, rfl, habove, hbroken⟩ := h
  obtain ⟨above', stretch', below', hsplit', rfl, habove', hbroken'⟩ := h'
  rw [hsplit, List.append_eq_append_iff] at hsplit'
  -- neither of the two lines stands above the other
  rcases hsplit' with ⟨between, rfl, hbelow⟩ | ⟨between, rfl, hbelow⟩
  · cases between with
    | nil => rw [List.append_nil]
    | cons first between =>
      obtain ⟨rfl, -⟩ := List.cons.inj hbelow
      exact absurd (habove' stretch (by simp)) hbroken
  · cases between with
    | nil => rw [List.append_nil]
    | cons first between =>
      obtain ⟨rfl, -⟩ := List.cons.inj hbelow
      exact absurd (habove stretch' (by simp)) hbroken'

/-- Decoding stops on the first line whose bytes are no text, if there is one. -/
theorem firstBroken_iff :
    FirstBroken bytes number ↔ ¬ IsText bytes ∧ stopLine bytes = number := by
  constructor
  · exact fun h => ⟨h.not_isText, (firstBroken_stopLine h.not_isText).unique h⟩
  · rintro ⟨h, rfl⟩
    exact firstBroken_stopLine h

/-! ## Lines -/

/-- The lines of a text are those of its bytes. -/
theorem linesOf_toUTF8 (text : String) : LinesOf text.toUTF8.toList (Text.lines text.toList) := by
  refine ⟨(text.toList.splitOn '\n').map String.ofList, ?_, ?_⟩
  · rw [toList_toUTF8, splitOn_flatMap, List.map_map]
    refine List.map_congr_left fun stretch _ => ?_
    rw [Function.comp_apply, toList_toUTF8, String.toList_ofList]
  · simp only [Text.lines_eq_ofStretches, List.map_map, Function.comp_def, String.toList_ofList,
      List.map_id']

end Utf8

end LayeredFlags
