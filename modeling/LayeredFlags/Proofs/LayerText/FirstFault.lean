import LayeredFlags.Proofs.LayerText.Faults
/-!
# The First Fault

A layer text that is refused is refused for the first fault in it. The lines above have none but a
comment that they may leave open, and no line below can hide the fault or change it. For a comment
that is never closed the fault is the mark that opened it last, and a closing mark behind the text
mends it.

## Main definitions

* `NamesFirstFault`: what the error of a text says of its lines.

## Main results

* `exists_line_of_error`: the lines above the line of an error are read;
* `readLine_append_close`: a closing mark behind a line that leaves a comment open;
* `namesFirstFault_of_parse`: every error of a text names its first fault.
-/

namespace LayeredFlags.LayerText

open Text

variable {number openedOn : Nat} {region after : Region} {raw : List Char}
  {raws : List (List Char)} {here : List Line} {text : String} {error : Error}

/-! ## The lines above a fault -/

/-- Lines that a run goes through are read, or a comment is open behind them. -/
theorem readLines_of_runLines (h : runLines number region raws = .ok (here, after)) :
    readLines number region raws = .ok here ∨
      ∃ openedOn, readLines number region raws = .error ⟨openedOn, .openComment⟩ := by
  cases after with
  | block openedOn =>
    exact .inr ⟨openedOn, readLines_eq_error_iff.2 (.inr ⟨here, openedOn, h, rfl⟩)⟩
  | code => exact .inl (readLines_eq_ok_iff.2 ⟨.code, h, Region.code_ne_block⟩)
  | literal mark =>
    exact .inl (readLines_eq_ok_iff.2 ⟨.literal mark, h, Region.literal_ne_block mark⟩)

/-- The line of an error is one of the lines, and the run goes through those above it. -/
theorem exists_line_of_error (h : readLines number .code raws = .error error) :
    ∃ before raw after, raws = before ++ raw :: after ∧ error.line = number + before.length ∧
      ∃ here start, runLines number .code before = .ok (here, start) := by
  rcases readLines_eq_error_iff.1 h with
    ⟨before, raw, after, rfl, here, start, hbefore, hline⟩ | ⟨here, openedOn, hrun, rfl⟩
  · exact ⟨before, raw, after, rfl, (line_of_readLine_eq_error hline).1, here, start, hbefore⟩
  · obtain ⟨before, raw, after, rfl, hopened, hopening, -⟩ := exists_opening_of_runLines hrun
    obtain ⟨here, start, -, hbefore, -⟩ := runLines_append_eq_ok_iff.1 hopening
    exact ⟨before, raw, after, rfl, hopened, here, start, hbefore⟩

/-! ## A closing mark behind an open comment -/

/-- A closing mark behind a line that leaves a comment open adds the space of the comment. -/
theorem stripComments_append_close_of_block {line : Nat} {text kept : List Char}
    (h : stripComments line region text = (kept, .block openedOn)) :
    stripComments line region (text ++ ['*', '/']) = (kept ++ [' '], .code) := by
  -- the text makes the same moves: its end is inside the comment, where only a slash behind a
  -- star matters, and the mark starts with the star
  induction region, text using stripComments_induction line generalizing kept with
  | atEnd region =>
    obtain ⟨rfl, rfl⟩ := Prod.mk.inj h
    rfl
  | close opened rest ih =>
    rw [stripComments_close] at h
    obtain ⟨rfl, hlast⟩ := Prod.mk.inj h
    rw [List.cons_append, List.cons_append, stripComments_close, ih (Prod.ext rfl hlast)]
    rfl
  | inBlock opened c rest hclose ih =>
    rw [stripComments_inBlock hclose] at h
    rw [List.cons_append, stripComments_inBlock (not_closesComment_append hclose (by decide)), ih h]
  | escape mark c rest ih =>
    rw [stripComments_escape] at h
    obtain ⟨rfl, hlast⟩ := Prod.mk.inj h
    rw [List.cons_append, List.cons_append, stripComments_escape, ih (Prod.ext rfl hlast)]
    rfl
  | inLiteral mark c rest hescape ih =>
    rw [stripComments_inLiteral hescape] at h
    obtain ⟨rfl, hlast⟩ := Prod.mk.inj h
    have hescape' : c = '\\' → rest ++ ['*', '/'] = [] := by
      -- no comment is open behind a backslash that ends the line
      intro hc
      rw [hescape hc] at hlast
      split at hlast <;> cases hlast
    rw [List.cons_append, stripComments_inLiteral hescape', ih (Prod.ext rfl hlast)]
    rfl
  | lineComment rest => cases h
  | blockComment rest ih =>
    rw [List.cons_append, List.cons_append, stripComments_blockComment, ih h]
  | inCode c rest hopen ih =>
    rw [stripComments_inCode hopen] at h
    obtain ⟨rfl, hlast⟩ := Prod.mk.inj h
    have hopen' : ¬ OpensComment c (rest ++ ['*', '/']) := by
      cases rest with
      | nil =>
        -- a character of code alone leaves no comment open
        split at hlast <;> cases hlast
      | cons d rest => exact hopen
    rw [List.cons_append, stripComments_inCode hopen', ih (Prod.ext rfl hlast)]
    rfl

/-- A closing mark behind a line that leaves a comment open closes it and adds nothing to what the
line says. -/
theorem readLine_append_close (h : readLine number region raw = .ok (here, .block openedOn)) :
    ∃ said, readLine number region (raw ++ ['*', '/']) = .ok (said, .code) ∧
      ∀ line ∈ said, line ∈ here := by
  by_cases hhash : region = .code ∧ isHashComment (trim (raw ++ ['*', '/'])) = true
  · obtain ⟨rfl, hcomment⟩ := hhash
    exact ⟨[], readLine_of_isHashComment number hcomment, by simp⟩
  rcases readLine_cases h with ⟨-, -, -, hblock⟩ | ⟨-, hafter, -, hcode⟩
  · cases hblock
  · have hskip : region = .code → isHashComment (trim (raw ++ ['*', '/'])) = false := by
      intro hcode
      simpa using fun hcomment => hhash ⟨hcode, hcomment⟩
    have hclosed := stripComments_append_close_of_block
      (show stripComments number region raw =
        ((stripComments number region raw).1, .block openedOn) from Prod.ext rfl hafter)
    have hspace : trim ((stripComments number region raw).1 ++ [' ']) =
        trim (stripComments number region raw).1 :=
      trim_append_right (List.forall_mem_singleton.2 rfl) _
    refine ⟨here, (readLine_eq_ok_iff hskip).2 ⟨?_, Region.code_ne_literal, ?_⟩, fun _ => id⟩
    · rw [hclosed]
    · rw [hclosed, ← hcode]
      unfold readCode
      rw [hspace]

/-- Lines that leave a comment open are read with a closing mark behind the last of them. -/
theorem readLines_append_close {others : List (List Char)}
    (h : runLines number region (others ++ [raw]) = .ok (here, .block openedOn)) :
    ∃ said, readLines number region (others ++ [raw ++ ['*', '/']]) = .ok said ∧
      ∀ line ∈ said, line ∈ here := by
  obtain ⟨start, next, there, hothers, hlast, rfl⟩ := runLines_append_eq_ok_iff.1 h
  rw [runLines_singleton] at hlast
  obtain ⟨said, hclosed, hsaid⟩ := readLine_append_close hlast
  refine ⟨start ++ said, readLines_eq_ok_iff.2 ⟨.code, ?_, Region.code_ne_block⟩, ?_⟩
  · refine runLines_append_eq_ok_iff.2 ⟨start, next, said, hothers, ?_, rfl⟩
    rw [runLines_singleton, hclosed]
  · intro line hmem
    rcases List.mem_append.1 hmem with hstart | hlate
    · exact List.mem_append_left _ hstart
    · exact List.mem_append_right _ (hsaid line hlate)

/-! ## Texts -/

theorem parse_eq_error_iff :
    parse text = .error error ↔ readLines 1 .code (lines text.toList) = .error error :=
  map_eq_error_iff

/-- The error of a text names its first fault: a text that ends above the line of the error has
none but an open comment, and a text that goes on below it has the same one. -/
structure NamesFirstFault (text : String) (error : Error) : Prop where
  /-- The error names a line of the text. -/
  line_mem : 1 ≤ error.line ∧ error.line ≤ (lines text.toList).length
  /-- The text of the lines above is read, or it ends in a comment. -/
  above : ∀ beginning : String,
    lines beginning.toList = (lines text.toList).take (error.line - 1) →
      (∃ document, parse beginning = .ok document) ∨
        ∃ line, parse beginning = .error ⟨line, .openComment⟩
  /-- A line that cannot be read is the fault of every text that starts with the same lines. -/
  behind : error.fault ≠ .openComment → ∀ other : String,
    (lines other.toList).take error.line = (lines text.toList).take error.line →
      parse other = .error error
  /-- A comment that is never closed is the fault of every beginning that has its mark. -/
  stays_open : error.fault = .openComment → ∀ m, error.line ≤ m → ∀ beginning : String,
    lines beginning.toList = (lines text.toList).take m → parse beginning = .error error
  /-- It is closed by a mark behind the text, and nothing is said below the line of the error. -/
  mended : error.fault = .openComment → ∃ document, parse (text ++ "*/") = .ok document ∧
    ∀ line ∈ document.lines, line.number ≤ error.line

theorem above_of_parse (h : parse text = .error error) (beginning : String)
    (hlines : lines beginning.toList = (lines text.toList).take (error.line - 1)) :
    (∃ document, parse beginning = .ok document) ∨
      ∃ line, parse beginning = .error ⟨line, .openComment⟩ := by
  obtain ⟨before, raw, after, hraws, hline, here, start, hbefore⟩ :=
    exists_line_of_error (parse_eq_error_iff.1 h)
  have htake : lines beginning.toList = before := by
    rw [hlines, hraws, hline, Nat.add_sub_cancel_left, List.take_left]
  rw [← htake] at hbefore
  rcases readLines_of_runLines hbefore with hread | ⟨openedOn, hread⟩
  · exact .inl ⟨⟨here⟩, by rw [parse, hread, map_ok]⟩
  · exact .inr ⟨openedOn, parse_eq_error_iff.2 hread⟩

theorem behind_of_parse (h : parse text = .error error) (hfault : error.fault ≠ .openComment)
    (other : String)
    (hlines : (lines other.toList).take error.line = (lines text.toList).take error.line) :
    parse other = .error error := by
  rcases readLines_eq_error_iff.1 (parse_eq_error_iff.1 h) with
    ⟨before, raw, after, hraws, hrefuses⟩ | ⟨_, _, _, rfl⟩
  · -- the other text has the refused line behind the same lines
    obtain ⟨here, start, hbefore, hread⟩ := hrefuses
    have hline : error.line = (before ++ [raw]).length := by
      rw [(line_of_readLine_eq_error hread).1, List.length_append, List.length_singleton,
        Nat.add_comm]
    have htake : (lines other.toList).take error.line = before ++ [raw] := by
      rw [hlines, hraws, hline, List.append_cons before raw after, List.take_left]
    refine parse_eq_error_iff.2 (readLines_eq_error_iff.2 (.inl ?_))
    refine ⟨before, raw, (lines other.toList).drop error.line, ?_, here, start, hbefore, hread⟩
    rw [List.append_cons, ← htake, List.take_append_drop]
  · exact absurd rfl hfault

/-- A text whose comment is never closed leaves it open behind its last line. -/
theorem exists_runLines_of_openComment (h : parse text = .error error)
    (hfault : error.fault = .openComment) :
    ∃ here, runLines 1 .code (lines text.toList) = .ok (here, .block error.line) ∧
      error = ⟨error.line, .openComment⟩ := by
  rcases readLines_eq_error_iff.1 (parse_eq_error_iff.1 h) with
    ⟨_, _, _, _, _, _, _, hread⟩ | ⟨here, openedOn, hrun, rfl⟩
  · exact absurd hfault (line_of_readLine_eq_error hread).2.ne_openComment
  · exact ⟨here, hrun, rfl⟩

theorem stays_open_of_parse (h : parse text = .error error) (hfault : error.fault = .openComment)
    {m : Nat} (hm : error.line ≤ m) (beginning : String)
    (hlines : lines beginning.toList = (lines text.toList).take m) :
    parse beginning = .error error := by
  obtain ⟨here, hrun, herror⟩ := exists_runLines_of_openComment h hfault
  obtain ⟨before, raw, after, hraws, hline, hopening, hstays⟩ := exists_opening_of_runLines hrun
  have hlength : (before ++ [raw]).length = error.line := by
    rw [hline, List.length_append, List.length_singleton, Nat.add_comm]
  have htake : lines beginning.toList = (before ++ [raw]) ++ after.take (m - error.line) := by
    rw [hlines, hraws, List.append_cons, List.take_append, hlength,
      List.take_of_length_le (by omega)]
  have hbeginning : runLines 1 .code (lines beginning.toList) = .ok (here, .block error.line) := by
    rw [htake]
    refine runLines_append_eq_ok_iff.2 ⟨here, .block error.line, [], hopening, ?_,
      List.append_nil here⟩
    rw [hlength, Nat.add_comm]
    exact hstays (m - error.line)
  exact parse_eq_error_iff.2 (readLines_eq_error_iff.2 (.inr ⟨here, _, hbeginning, herror⟩))

theorem mended_of_parse (h : parse text = .error error) (hfault : error.fault = .openComment) :
    ∃ document, parse (text ++ "*/") = .ok document ∧
      ∀ line ∈ document.lines, line.number ≤ error.line := by
  obtain ⟨here, hrun, -⟩ := exists_runLines_of_openComment h hfault
  obtain ⟨before, raw, after, hraws, hline, hopening, -⟩ := exists_opening_of_runLines hrun
  have hnumbers : ∀ line ∈ here, line.number ≤ error.line := by
    intro line hmem
    have hlast := (number_of_mem_runLines hopening hmem).2
    rw [List.length_append, List.length_singleton] at hlast
    omega
  -- the mark stands behind the last line, or on a line of its own if that one is ended
  obtain ⟨others, last, hmarked, hunmarked⟩ :=
    @exists_lines_append ['*', '/'] (by decide) (by decide) text.toList
  have hopen : runLines 1 .code (others ++ [last]) = .ok (here, .block error.line) := by
    rcases hunmarked with ⟨rfl, rfl⟩ | hunmarked
    · refine runLines_append_eq_ok_iff.2 ⟨here, .block error.line, [], hrun, ?_,
        List.append_nil here⟩
      simp [runLines, readLine, stripComments, readCode, trim, trimStart, trimEnd]
    · rw [← hunmarked]
      exact hrun
  obtain ⟨said, hread, hsaid⟩ := readLines_append_close hopen
  refine ⟨⟨said⟩, ?_, fun line hmem => hnumbers line (hsaid line hmem)⟩
  rw [parse, String.toList_append, show "*/".toList = ['*', '/'] from rfl, hmarked, hread, map_ok]

/-- Whatever a text is refused for is its first fault. -/
theorem namesFirstFault_of_parse (h : parse text = .error error) :
    NamesFirstFault text error where
  line_mem := by
    obtain ⟨before, raw, after, hraws, hline, -⟩ := exists_line_of_error (parse_eq_error_iff.1 h)
    rw [hraws, List.length_append, List.length_cons, hline]
    omega
  above := above_of_parse h
  behind := behind_of_parse h
  stays_open := fun hfault m hm => stays_open_of_parse h hfault hm
  mended := mended_of_parse h

/-- A comment that is closed and opened again on its second line, and the line it hides. -/
theorem namesFirstFault_reopened :
    parse "ENABLE A /* x\n*/ /* y\nTURN B\n" = .error ⟨2, .openComment⟩ ∧
      parse "ENABLE A /* x\n" = .error ⟨1, .openComment⟩ ∧
      parse "ENABLE A /* x\n*/ /* y" = .error ⟨2, .openComment⟩ ∧
      ∃ document, parse "ENABLE A /* x\n*/ /* y\nTURN B\n*/" = .ok document ∧
        ∀ line ∈ document.lines, line.number ≤ 2 := by
  have h : parse "ENABLE A /* x\n*/ /* y\nTURN B\n" = .error ⟨2, .openComment⟩ := rfl
  exact ⟨h, rfl, (namesFirstFault_of_parse h).stays_open rfl 2 (by decide) _ rfl,
    (namesFirstFault_of_parse h).mended rfl⟩

end LayeredFlags.LayerText
