import LayeredFlags.Proofs.LayerText.Reading
import Mathlib.Data.List.Induction
import Mathlib.Tactic.SplitIfs
/-!
# Where Faults Come From

A layer text is refused in one of two ways. A line that cannot be read ends the run there, and the
error names that line; every other fault waits for the end of the text, where a block comment is
still open, and the error names the line that it was opened on. This file tells the two apart and
says what an open comment means for the lines behind its mark.

## Main definitions

* `Fault.OfLine`: a line by itself can have the fault;
* `RefusesBehind`: the run over some lines comes to one that cannot be read.

## Main results

* `runLines_append`, `runLines_append_eq_ok_iff`: a run over joined lines;
* `line_of_readLine_eq_error`: a line that cannot be read is named itself;
* `readLines_eq_error_iff`: the two ways in which lines are refused;
* `exists_opening_of_runLines`: a comment that is open at the end was opened on one of the lines,
  and the lines behind that one say nothing.
-/

namespace LayeredFlags.LayerText

open Text

variable {number openedOn : Nat} {region after : Region} {raw : List Char}
  {raws first second : List (List Char)} {here : List Line} {error : Error}

/-! ## Faults of one line -/

/-- The fault is one of a line by itself. Neither the end of the text nor its bytes matter. -/
structure Fault.OfLine (fault : Fault) : Prop where
  /-- It is no comment that stays open. -/
  ne_openComment : fault ≠ .openComment
  /-- It is no matter of the encoding. -/
  ne_notUtf8 : fault ≠ .notUtf8

theorem Fault.ofLine_invalidName (name : String) : (Fault.invalidName name).OfLine :=
  ⟨Fault.noConfusion, Fault.noConfusion⟩

theorem Fault.ofLine_unsupportedDirective (keyword : String) :
    (Fault.unsupportedDirective keyword).OfLine :=
  ⟨Fault.noConfusion, Fault.noConfusion⟩

theorem Fault.ofLine_malformed (reason : Malformation) : (Fault.malformed reason).OfLine :=
  ⟨Fault.noConfusion, Fault.noConfusion⟩

theorem failsOnly_readName (name : List Char) : FailsOnly Fault.OfLine (readName name) := by
  unfold readName
  split_ifs
  · exact failsOnly_ok _
  · exact failsOnly_error (Fault.ofLine_invalidName _)

theorem failsOnly_readFlag (keyword : String) (state : FlagState) (text : List Char) :
    FailsOnly Fault.OfLine (readFlag keyword state text) := by
  unfold readFlag
  dsimp only
  split_ifs
  · exact failsOnly_error (Fault.ofLine_malformed _)
  · exact failsOnly_error (Fault.ofLine_malformed _)
  · exact (failsOnly_readName _).bind fun _ => failsOnly_ok _

theorem failsOnly_readDefine (text : List Char) : FailsOnly Fault.OfLine (readDefine text) := by
  unfold readDefine
  dsimp only
  split_ifs
  · exact failsOnly_error (Fault.ofLine_malformed _)
  · exact failsOnly_error (Fault.ofLine_malformed _)
  · exact (failsOnly_readName _).bind fun _ => failsOnly_ok _
  · exact (failsOnly_readName _).bind fun _ => failsOnly_ok _

theorem failsOnly_readUndef (text : List Char) : FailsOnly Fault.OfLine (readUndef text) := by
  unfold readUndef
  dsimp only
  split_ifs
  · exact failsOnly_error (Fault.ofLine_malformed _)
  · exact failsOnly_error (Fault.ofLine_malformed _)
  · exact failsOnly_error (Fault.ofLine_malformed _)
  · exact (failsOnly_readName _).bind fun _ => failsOnly_ok _

theorem failsOnly_readPreprocessor (text : List Char) :
    FailsOnly Fault.OfLine (readPreprocessor text) := by
  unfold readPreprocessor
  dsimp only
  split_ifs
  · exact failsOnly_readDefine _
  · exact failsOnly_readUndef _
  · exact failsOnly_error (Fault.ofLine_unsupportedDirective _)

theorem failsOnly_readWords (text : List Char) : FailsOnly Fault.OfLine (readWords text) := by
  unfold readWords
  dsimp only
  split_ifs
  · exact failsOnly_readFlag _ _ _
  · exact failsOnly_readFlag _ _ _
  · exact failsOnly_error (Fault.ofLine_malformed _)

/-- A directive is refused for a fault of its line. -/
theorem failsOnly_readDirective (code : List Char) :
    FailsOnly Fault.OfLine (readDirective code) := by
  unfold readDirective
  split_ifs
  · exact failsOnly_ok _
  · split
    · exact (failsOnly_readPreprocessor _).map some
    · exact (failsOnly_readWords _).map some

theorem readCode_eq_error {kept : List Char} (h : readCode number kept = .error error) :
    error.line = number ∧ error.fault.OfLine := by
  unfold readCode at h
  dsimp only at h
  split_ifs at h
  split at h
  · next fault hdirective =>
    cases h
    exact ⟨rfl, failsOnly_readDirective _ fault hdirective⟩
  · cases h
  · cases h

/-- The error of a line that cannot be read names that line, and a fault of it. -/
theorem line_of_readLine_eq_error (h : readLine number region raw = .error error) :
    error.line = number ∧ error.fault.OfLine := by
  unfold readLine at h
  dsimp only at h
  split_ifs at h
  split at h
  · cases h
    exact ⟨rfl, Fault.ofLine_malformed _⟩
  · rcases bind_eq_error_iff.1 h with hcode | ⟨_, -, hreturn⟩
    · exact readCode_eq_error hcode
    · cases hreturn

/-- What a line says stands on that line. -/
theorem number_of_mem_readCode {kept : List Char} (h : readCode number kept = .ok here)
    {line : Line} (hmem : line ∈ here) : line.number = number := by
  unfold readCode at h
  dsimp only at h
  split_ifs at h
  · cases h
    cases hmem
  · split at h
    · cases h
    · cases h
      cases hmem
    · cases h
      rw [List.mem_singleton.1 hmem]

theorem number_of_mem_readLine (h : readLine number region raw = .ok (here, after))
    {line : Line} (hmem : line ∈ here) : line.number = number := by
  rcases readLine_cases h with ⟨-, -, rfl, -⟩ | ⟨-, -, -, hcode⟩
  · cases hmem
  · exact number_of_mem_readCode hcode hmem

/-! ## Runs -/

theorem runLines_singleton (number : Nat) (region : Region) (raw : List Char) :
    runLines number region [raw] = readLine number region raw := by
  rw [runLines]
  cases readLine number region raw with
  | error error => rfl
  | ok result => simp [runLines]

/-- A run over joined lines is a run over the first ones and then one over the others. -/
theorem runLines_append (number : Nat) (region : Region) (first second : List (List Char)) :
    runLines number region (first ++ second) = (do
      let (here, after) ← runLines number region first
      let (there, last) ← runLines (number + first.length) after second
      return (here ++ there, last)) := by
  induction first generalizing number region with
  | nil =>
    rw [runLines]
    cases h : runLines number region second <;> simp [h]
  | cons raw first ih =>
    rw [List.cons_append, runLines, runLines]
    cases readLine number region raw with
    | error error => rfl
    | ok result =>
      obtain ⟨start, next⟩ := result
      simp only [ok_bind, ih, add_length_cons]
      cases runLines (number + 1) next first with
      | error error => rfl
      | ok result =>
        obtain ⟨here, after⟩ := result
        simp only [ok_bind, pure_eq_ok]
        cases runLines (number + 1 + first.length) after second with
        | error error => rfl
        | ok others => simp

theorem runLines_append_eq_ok_iff {said : List Line} {last : Region} :
    runLines number region (first ++ second) = .ok (said, last) ↔
      ∃ here after there, runLines number region first = .ok (here, after) ∧
        runLines (number + first.length) after second = .ok (there, last) ∧
        here ++ there = said := by
  rw [runLines_append]
  simp only [bind_eq_ok_iff, Prod.exists, pure_eq_ok, Except.ok.injEq, Prod.mk.injEq]
  constructor
  · rintro ⟨here, after, hhere, there, _, hthere, rfl, rfl⟩
    exact ⟨here, after, there, hhere, hthere, rfl⟩
  · rintro ⟨here, after, there, hhere, hthere, rfl⟩
    exact ⟨here, after, hhere, there, last, hthere, rfl, rfl⟩

/-- The run over some lines comes to one behind the given ones and cannot read it. -/
def RefusesBehind (number : Nat) (region : Region) (before : List (List Char)) (raw : List Char)
    (error : Error) : Prop :=
  ∃ here start, runLines number region before = .ok (here, start) ∧
    readLine (number + before.length) start raw = .error error

/-- A run fails at the first line that cannot be read. -/
theorem runLines_eq_error_iff :
    runLines number region raws = .error error ↔
      ∃ before raw after, raws = before ++ raw :: after ∧
        RefusesBehind number region before raw error := by
  induction raws generalizing number region with
  | nil => simp [runLines]
  | cons raw rest ih =>
    rw [runLines, bind_eq_error_iff]
    constructor
    · rintro (hline | ⟨⟨here, next⟩, hline, hrest⟩)
      · exact ⟨[], raw, rest, rfl, [], region, rfl, hline⟩
      · rcases bind_eq_error_iff.1 hrest with hrun | ⟨_, -, hreturn⟩
        · obtain ⟨before, raw', after, rfl, there, start, hbefore, hfault⟩ := ih.1 hrun
          rw [← add_length_cons] at hfault
          refine ⟨raw :: before, raw', after, rfl, here ++ there, start, ?_, hfault⟩
          simp [runLines, hline, hbefore]
        · cases hreturn
    · rintro ⟨before, raw', after, heq, here, start, hbefore, hfault⟩
      cases before with
      | nil =>
        obtain ⟨rfl, rfl⟩ := List.cons.inj heq
        cases hbefore
        exact .inl hfault
      | cons first before =>
        obtain ⟨rfl, rfl⟩ := List.cons.inj heq
        obtain ⟨there, next, more, hline, hrun, rfl⟩ := runLines_cons_eq_ok_iff.1 hbefore
        rw [add_length_cons] at hfault
        refine .inr ⟨(there, next), hline, bind_eq_error_iff.2 (.inl (ih.2 ?_))⟩
        exact ⟨before, raw', after, rfl, more, _, hrun, hfault⟩

/-- Lines are refused at the first one that cannot be read, or for a comment that is open behind
the last one. -/
theorem readLines_eq_error_iff :
    readLines number region raws = .error error ↔
      (∃ before raw after, raws = before ++ raw :: after ∧
        RefusesBehind number region before raw error) ∨
      ∃ here openedOn, runLines number region raws = .ok (here, .block openedOn) ∧
        error = ⟨openedOn, .openComment⟩ := by
  have happend := readLines_append number region raws []
  rw [List.append_nil] at happend
  rw [happend, bind_eq_error_iff, runLines_eq_error_iff]
  refine or_congr_right ?_
  simp only [Prod.exists, bind_eq_error_iff, pure_eq_ok, reduceCtorEq, and_false, exists_false,
    or_false]
  -- only the region behind the last line decides
  constructor
  · rintro ⟨here, after, hrun, hend⟩
    cases after with
    | block openedOn =>
      cases hend
      exact ⟨here, openedOn, hrun, rfl⟩
    | code => cases hend
    | literal mark => cases hend
  · rintro ⟨here, openedOn, hrun, rfl⟩
    exact ⟨here, .block openedOn, hrun, rfl⟩

/-- What a run says stands on its lines. -/
theorem number_of_mem_runLines (h : runLines number region raws = .ok (here, after))
    {line : Line} (hmem : line ∈ here) :
    number ≤ line.number ∧ line.number < number + raws.length := by
  induction raws generalizing number region here with
  | nil =>
    cases h
    cases hmem
  | cons raw rest ih =>
    obtain ⟨first, next, there, hline, hrun, rfl⟩ := runLines_cons_eq_ok_iff.1 h
    rw [List.length_cons]
    rcases List.mem_append.1 hmem with hfirst | hthere
    · have := number_of_mem_readLine hline hfirst
      omega
    · have := ih hrun hthere
      omega

/-! ## Comments that stay open -/

/-- A comment that is open at the end of a line was opened on it, or it was open before and
nothing of the line is kept. -/
theorem stripComments_eq_block {line : Nat} {text kept : List Char}
    (h : stripComments line region text = (kept, .block openedOn)) :
    openedOn = line ∨ region = .block openedOn ∧ kept = [] := by
  induction region, text using stripComments_induction line generalizing kept with
  | atEnd region =>
    obtain ⟨rfl, rfl⟩ := Prod.mk.inj h
    exact .inr ⟨rfl, rfl⟩
  | close opened rest ih =>
    rw [stripComments_close] at h
    rcases ih (Prod.ext rfl (Prod.mk.inj h).2) with heq | ⟨hcode, -⟩
    · exact .inl heq
    · cases hcode
  | inBlock opened c rest hclose ih =>
    rw [stripComments_inBlock hclose] at h
    exact ih h
  | escape mark c rest ih =>
    rw [stripComments_escape] at h
    rcases ih (Prod.ext rfl (Prod.mk.inj h).2) with heq | ⟨hliteral, -⟩
    · exact .inl heq
    · cases hliteral
  | inLiteral mark c rest hescape ih =>
    rw [stripComments_inLiteral hescape] at h
    rcases ih (Prod.ext rfl (Prod.mk.inj h).2) with heq | ⟨hnext, -⟩
    · exact .inl heq
    · split at hnext <;> cases hnext
  | lineComment rest => cases h
  | blockComment rest ih =>
    rcases ih h with heq | ⟨hblock, -⟩
    · exact .inl heq
    · cases hblock
      exact .inl rfl
  | inCode c rest hopen ih =>
    rw [stripComments_inCode hopen] at h
    rcases ih (Prod.ext rfl (Prod.mk.inj h).2) with heq | ⟨hnext, -⟩
    · exact .inl heq
    · split at hnext <;> cases hnext

/-- A comment that is open behind a line was opened on it, or it was open before and the line says
nothing. -/
theorem readLine_eq_block (h : readLine number region raw = .ok (here, .block openedOn)) :
    openedOn = number ∨ region = .block openedOn ∧ here = [] := by
  rcases readLine_cases h with ⟨-, -, -, hblock⟩ | ⟨-, hafter, -, hcode⟩
  · cases hblock
  · have hstrip : stripComments number region raw =
        ((stripComments number region raw).1, .block openedOn) := Prod.ext rfl hafter
    refine (stripComments_eq_block hstrip).imp_right ?_
    rintro ⟨hregion, hkept⟩
    rw [hkept] at hcode
    exact ⟨hregion, (Except.ok.inj hcode).symm⟩

/-- A comment that is open behind some lines was opened on one of them. All that the lines say is
said up to that one, and the lines behind it leave the comment open. -/
theorem exists_opening_of_runLines
    (h : runLines number .code raws = .ok (here, .block openedOn)) :
    ∃ before raw after, raws = before ++ raw :: after ∧ openedOn = number + before.length ∧
      runLines number .code (before ++ [raw]) = .ok (here, .block openedOn) ∧
      ∀ m, runLines (openedOn + 1) (.block openedOn) (after.take m) =
        .ok ([], .block openedOn) := by
  -- induction on the number of lines: the last line opens the comment or adds to those behind it
  induction raws using List.reverseRecOn generalizing here with
  | nil => cases h
  | append_singleton init last ih =>
    obtain ⟨start, region, there, hinit, hlast, rfl⟩ := runLines_append_eq_ok_iff.1 h
    rw [runLines_singleton] at hlast
    rcases readLine_eq_block hlast with heq | ⟨rfl, rfl⟩
    · refine ⟨init, last, [], rfl, heq, h, fun m => ?_⟩
      rw [List.take_nil, runLines]
    · obtain ⟨before, raw, after, rfl, hopened, hopening, hstays⟩ := ih hinit
      rw [List.append_nil]
      refine ⟨before, raw, after ++ [last], by simp, hopened, hopening, fun m => ?_⟩
      by_cases hm : m ≤ after.length
      · rw [List.take_append_of_le_length hm]
        exact hstays m
      · have hall : (after ++ [last]).take m = after ++ [last] := by
          refine List.take_of_length_le ?_
          rw [List.length_append, List.length_singleton]
          omega
        have hnumber : openedOn + 1 + after.length = number + (before ++ raw :: after).length := by
          rw [List.length_append, List.length_cons]
          omega
        have hafter := hstays after.length
        rw [List.take_length] at hafter
        rw [hall]
        refine runLines_append_eq_ok_iff.2 ⟨[], .block openedOn, [], hafter, ?_, rfl⟩
        rw [runLines_singleton, hnumber]
        exact hlast

end LayeredFlags.LayerText
