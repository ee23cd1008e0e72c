import LayeredFlags.Text.Lines
import Mathlib.Data.List.Induction
/-!
# Texts Put Together in the Middle of a Line

`lines_append` puts texts together at the end of a line. Here the first text breaks off within a
line: what follows it goes on there (`lines_append_firstLine`), and a line feed behind it ends that
line (`lines_append_lineFeed`), together with a carriage return in front of the line feed.

## Main definitions

* `firstLine`, `otherLines`: the line that a text goes on with, and the lines behind it;
* `dropReturn`: a line without the carriage return that its line feed takes along.

## Main results

* `lines_append_firstLine`, `lines_append_lineFeed`: what follows an unfinished line;
* `exists_endsLine_append`: every text is finished lines and an unfinished one;
* `infix_of_mem_lines`: every line is a piece of its text.
-/

namespace LayeredFlags.Text

/-- What a text goes on with on the line that it starts on. -/
def firstLine (text : List Char) : List Char :=
  (lines text).headD []

/-- The lines of a text behind the one that it starts on. -/
def otherLines (text : List Char) : List (List Char) :=
  (lines text).tail

/-- A line without the carriage return that belongs to the line feed behind it. -/
def dropReturn (line : List Char) : List Char :=
  if line.getLast? = some '\r' then line.dropLast else line

theorem dropReturn_concat (line : List Char) : dropReturn (line ++ ['\r']) = line := by
  rw [dropReturn, if_pos List.getLast?_concat, List.dropLast_concat]

theorem dropReturn_of_ne {line : List Char} (h : line.getLast? ≠ some '\r') :
    dropReturn line = line :=
  if_neg h

/-- Nothing but one carriage return is dropped. -/
theorem eq_dropReturn_or (line : List Char) :
    line = dropReturn line ∨ line = dropReturn line ++ ['\r'] := by
  by_cases h : line.getLast? = some '\r'
  · obtain ⟨before, rfl⟩ := List.getLast?_eq_some_iff.1 h
    exact .inr (by rw [dropReturn_concat])
  · exact .inl (dropReturn_of_ne h).symm

/-- What stands in front of the last piece of a line is kept. -/
theorem dropReturn_append {before line : List Char}
    (h : line = [] → before.getLast? ≠ some '\r') :
    dropReturn (before ++ line) = before ++ dropReturn line := by
  by_cases hcr : line.getLast? = some '\r'
  · obtain ⟨rest, rfl⟩ := List.getLast?_eq_some_iff.1 hcr
    rw [← List.append_assoc, dropReturn_concat, dropReturn_concat]
  · rw [dropReturn_of_ne hcr]
    refine dropReturn_of_ne fun hlast => ?_
    rw [List.getLast?_append] at hlast
    cases hline : line.getLast? with
    | none =>
      rw [hline, Option.none_or] at hlast
      exact h (List.getLast?_eq_none_iff.1 hline) hlast
    | some c =>
      rw [hline, Option.some_or] at hlast
      exact hcr (hline.trans hlast)

/-- A carriage return and a line feed end the line in front of them. -/
theorem lines_append_return {line : List Char} (hlf : '\n' ∉ line) (rest : List Char) :
    lines (line ++ '\r' :: '\n' :: rest) = line :: lines rest := by
  induction line with
  | nil => rfl
  | cons c line ih =>
    obtain ⟨hc, hline⟩ := not_or.1 (fun h => hlf (List.mem_cons.2 h))
    have hhead : c = '\r' → (line ++ '\r' :: '\n' :: rest).head? ≠ some '\n' := by
      intro _ hhead
      cases line with
      | nil => exact absurd (Option.some.inj hhead) (by decide)
      | cons d tail => exact hline (List.mem_of_head? hhead)
    rw [List.cons_append, lines_cons (Ne.symm hc) hhead, ih hline, consHead]

/-- A line feed ends the line in front of it and takes a carriage return along. -/
theorem lines_append_lineFeed {line : List Char} (hlf : '\n' ∉ line) (rest : List Char) :
    lines (line ++ '\n' :: rest) = dropReturn line :: lines rest := by
  by_cases h : line.getLast? = some '\r'
  · obtain ⟨before, rfl⟩ := List.getLast?_eq_some_iff.1 h
    have hbefore : '\n' ∉ before := fun hmem => hlf (List.mem_append_left _ hmem)
    rw [dropReturn_concat, List.append_assoc]
    exact lines_append_return hbefore rest
  · rw [dropReturn_of_ne h, lines_append_cons hlf h]

/-- What follows an unfinished line goes on with it. -/
theorem lines_append_firstLine {front : List Char} {c : Char} (hlf : '\n' ∉ front)
    (hc : c ≠ '\r' ∧ c ≠ '\n') (rest : List Char) :
    lines (front ++ c :: rest) = (front ++ c :: firstLine rest) :: otherLines rest := by
  induction front with
  | nil =>
    rw [List.nil_append, List.nil_append, lines_cons hc.2 fun heq => absurd heq hc.1]
    unfold firstLine otherLines
    cases lines rest <;> rfl
  | cons d front ih =>
    obtain ⟨hd, hfront⟩ := not_or.1 (fun h => hlf (List.mem_cons.2 h))
    -- a carriage return is no end of line here, because no line feed follows it
    have hhead : d = '\r' → (front ++ c :: rest).head? ≠ some '\n' := by
      intro _ hhead
      cases front with
      | nil => exact hc.2 (Option.some.inj hhead)
      | cons e tail => exact hfront (List.mem_of_head? hhead)
    rw [List.cons_append, lines_cons (Ne.symm hd) hhead, ih hfront]
    rfl

/-- Line feeds in front of a text are empty lines. -/
theorem lines_replicate_append (n : Nat) (text : List Char) :
    lines (List.replicate n '\n' ++ text) = List.replicate n [] ++ lines text := by
  induction n with
  | zero => rfl
  | succ n ih =>
    rw [List.replicate_succ, List.replicate_succ, List.cons_append, List.cons_append, lines, ih]

/-- A text is finished lines and then an unfinished one, which may be empty. -/
theorem exists_endsLine_append (text : List Char) :
    ∃ whole last, text = whole ++ last ∧ EndsLine whole ∧ '\n' ∉ last := by
  induction text using List.reverseRecOn with
  | nil => exact ⟨[], [], rfl, .inl rfl, List.not_mem_nil⟩
  | append_singleton text c ih =>
    by_cases hc : c = '\n'
    · subst hc
      exact ⟨text ++ ['\n'], [], (List.append_nil _).symm, endsLine_concat text,
        List.not_mem_nil⟩
    · obtain ⟨whole, last, rfl, hends, hlf⟩ := ih
      refine ⟨whole, last ++ [c], List.append_assoc .., hends, ?_⟩
      simpa using ⟨hlf, Ne.symm hc⟩

/-- A text starts with its first line. -/
theorem prefix_of_lines_eq_cons {text first : List Char} {others : List (List Char)}
    (h : lines text = first :: others) : first <+: text := by
  fun_induction lines text generalizing first others with
  | case1 => cases h
  | case2 rest =>
    obtain ⟨rfl, -⟩ := List.cons.inj h
    exact List.nil_prefix
  | case3 rest =>
    obtain ⟨rfl, -⟩ := List.cons.inj h
    exact List.nil_prefix
  | case4 c rest hcr hlf ih =>
    cases hrest : lines rest with
    | nil =>
      rw [hrest] at h
      obtain ⟨rfl, -⟩ := List.cons.inj h
      exact List.prefix_append [c] rest
    | cons line more =>
      rw [hrest] at h
      obtain ⟨rfl, -⟩ := List.cons.inj h
      exact (List.prefix_cons_inj c).2 (ih hrest)

/-- Every line is a piece of its text. -/
theorem infix_of_mem_lines {text line : List Char} (h : line ∈ lines text) : line <:+: text := by
  fun_induction lines text generalizing line with
  | case1 => cases h
  | case2 rest ih =>
    rcases List.mem_cons.1 h with rfl | hmem
    · exact List.nil_infix
    · exact (ih hmem).trans (List.suffix_append ['\r', '\n'] rest).isInfix
  | case3 rest ih =>
    rcases List.mem_cons.1 h with rfl | hmem
    · exact List.nil_infix
    · exact (ih hmem).trans (List.suffix_cons '\n' rest).isInfix
  | case4 c rest hcr hlf ih =>
    -- the first line starts with the text, and the others are lines of what follows
    have hall : lines (c :: rest) = consHead c (lines rest) := by
      rw [lines]
      · exact hcr
      · exact hlf
    cases hrest : lines rest with
    | nil =>
      rw [hrest] at h hall
      obtain rfl := List.mem_singleton.1 h
      exact (prefix_of_lines_eq_cons hall).isInfix
    | cons first others =>
      rw [hrest] at h hall
      rcases List.mem_cons.1 h with rfl | hmem
      · exact (prefix_of_lines_eq_cons hall).isInfix
      · refine (ih ?_).trans (List.suffix_cons c rest).isInfix
        rw [hrest]
        exact List.mem_cons_of_mem first hmem

end LayeredFlags.Text
