import LayeredFlags.Output.Header
import LayeredFlags.Proofs.LayerText.Grammar
/-!
# Reading a Written Line

Every line that a header has for a flag or a constant starts with the keyword of a state and a
name. This file says what such a line is read as, whatever follows the name: nothing, a value
or a comment.

## Main definitions

* `writtenLine`: the line with a given text after its name;
* `writtenDirective`: what the line says.

## Main results

* `readDirective_writtenLine`: the line is read as what it says;
* `readLine_writtenLine`: the same with the comments still in the line.
-/

namespace LayeredFlags.LayerText

open Text

/-- The start of a written line: the keyword of a state and a name. -/
def writtenFront (state : FlagState) (name : List Char) : List Char :=
  state.directive.toList ++ ' ' :: name

/-- A written line: the keyword of a state, a name, and what follows the name. -/
def writtenLine (state : FlagState) (name rest : List Char) : List Char :=
  writtenFront state name ++ rest

/-- What a written line says: it asserts the state if only blanks follow the name. Any other
text there is the value of a setting, which the keyword of a disabled flag does not take. -/
def writtenDirective (state : FlagState) (name rest : List Char) : Except Fault Directive :=
  if trim rest = [] then .ok (.assert ⟨String.ofList name, state⟩)
  else match state with
    | .enabled => .ok (.set ⟨String.ofList name, String.ofList (trim rest)⟩)
    | .disabled => .error (.malformed (.extraText (String.ofList (trim rest))))

variable {name rest : List Char}

/-- Nothing opens at the start of a written line. -/
theorem isInert_of_mem_writtenFront {state : FlagState}
    (hname : FlagName.isIdentifier name = true) {c : Char} (hc : c ∈ writtenFront state name) :
    isInert c = true := by
  have hkeyword : ∀ d ∈ state.directive.toList, isInert d = true := by
    cases state <;> exact List.all_eq_true.1 rfl
  rcases List.mem_append.1 hc with hmem | hmem
  · exact hkeyword c hmem
  · rcases List.mem_cons.1 hmem with rfl | hmem
    · rfl
    · exact isInert_of_isRest (FlagName.isRest_of_mem hname hmem)

/-- A word that a space follows is the next one. -/
theorem nextWord_append_space {word : List Char} (hne : word ≠ [])
    (hword : word.all (!isBlank ·) = true) (text : List Char) :
    nextWord (word ++ ' ' :: text) = (word, ' ' :: text) := by
  have hgap : IsGap [' '] := ⟨by simp, List.all_eq_true.1 rfl⟩
  exact nextWord_keyword hne hword hgap text

/-- A written line is read as what it says. -/
theorem readDirective_writtenLine (state : FlagState)
    (hname : FlagName.isIdentifier name = true)
    (hrest : ∀ c, rest.head? = some c → isBlank c = true) :
    readDirective (writtenLine state name rest) = some <$> writtenDirective state name rest := by
  have hne := FlagName.ne_nil_of_isIdentifier hname
  -- both keywords are read word by word: the keyword, the name, and what is left
  cases state with
  | enabled =>
    have hkeyword : nextWord ("define".toList ++ ' ' :: (name ++ rest)) =
        ("define".toList, ' ' :: (name ++ rest)) := nextWord_append_space (by decide) rfl _
    have hname' : nextWord ([' '] ++ name ++ rest) = (name, rest) :=
      nextWord_append_name rfl hname hrest
    change some <$> readPreprocessor ("define".toList ++ ' ' :: (name ++ rest)) = _
    rw [readPreprocessor, hkeyword]
    change some <$> readDefine ([' '] ++ name ++ rest) = _
    rw [readDefine, hname']
    simp only [hne, readName, hname, writtenDirective, ↓reduceIte, pure_eq_ok, ok_bind]
  | disabled =>
    -- the keyword is filled up with a space, so that two of them stand before the name
    have hkeyword : nextWord ("undef".toList ++ ' ' :: ' ' :: (name ++ rest)) =
        ("undef".toList, ' ' :: ' ' :: (name ++ rest)) := nextWord_append_space (by decide) rfl _
    have hname' : nextWord ([' ', ' '] ++ name ++ rest) = (name, rest) :=
      nextWord_append_name rfl hname hrest
    change some <$> readPreprocessor ("undef".toList ++ ' ' :: ' ' :: (name ++ rest)) = _
    rw [readPreprocessor, hkeyword]
    change some <$> readUndef ([' ', ' '] ++ name ++ rest) = _
    rw [readUndef, hname']
    simp only [hne, readName, hname, writtenDirective, ↓reduceIte, pure_eq_ok, ok_bind]
    by_cases htrim : trim rest = []
    · simp [htrim]
    · simp [htrim]

/-- Trimming a written line cuts off blanks that follow its name. -/
theorem trim_writtenLine (state : FlagState) (hname : FlagName.isIdentifier name = true)
    (rest : List Char) :
    trim (writtenLine state name rest) = writtenLine state name (trimEnd rest) := by
  have hhead : ∀ c, (writtenLine state name rest).head? = some c → isBlank c = false := by
    intro c hc
    obtain rfl : '#' = c := by cases state <;> exact Option.some.inj hc
    rfl
  -- the front ends with the name, which holds no blank
  have hlast : ∀ c, (writtenFront state name).getLast? = some c → isBlank c = false := by
    intro c hc
    obtain ⟨front, last, rfl⟩ :=
      (List.eq_nil_or_concat name).resolve_left (FlagName.ne_nil_of_isIdentifier hname)
    have hconcat : writtenFront state (front ++ [last]) = writtenFront state front ++ [last] := by
      simp [writtenFront]
    rw [List.concat_eq_append, hconcat, List.getLast?_concat, Option.some_inj] at hc
    subst hc
    exact isBlank_of_isRest (FlagName.isRest_of_mem hname (by simp))
  rw [trim, trimStart_eq_self hhead, writtenLine, trimEnd_append_left hlast, writtenLine]

/-- The code of a written line is what its directive says. -/
theorem readCode_writtenLine (number : Nat) (state : FlagState)
    (hname : FlagName.isIdentifier name = true)
    (hrest : ∀ c, rest.head? = some c → isBlank c = true) {here : List Line} :
    readCode number (writtenLine state name rest) = .ok here ↔
      ∃ directive, writtenDirective state name rest = .ok directive ∧
        here = [⟨number, directive⟩] := by
  have hne : writtenLine state name (trimEnd rest) ≠ [] := by simp [writtenLine, writtenFront]
  -- what is left behind the name after trimming still starts with a blank, if anything is
  have hend : ∀ c, (trimEnd rest).head? = some c → isBlank c = true := by
    intro c hc
    obtain ⟨after, hsplit, -⟩ := exists_trimEnd rest
    refine hrest c ?_
    rw [hsplit, List.head?_append, hc, Option.some_or]
  have hdirective : writtenDirective state name (trimEnd rest) =
      writtenDirective state name rest := by
    simp only [writtenDirective, trim_trimEnd]
  rw [readCode, trim_writtenLine state hname, readDirective_writtenLine state hname hend,
    hdirective]
  simp only [hne, ↓reduceIte]
  cases writtenDirective state name rest with
  | error fault => simp
  | ok directive => simp [eq_comm]

/-- A written line is read if no literal is left open on it and if its keyword takes what the
comments leave after the name. -/
theorem readLine_writtenLine {number : Nat} {state : FlagState} {after : Region}
    {here : List Line} (hname : FlagName.isIdentifier name = true)
    (hrest : ∀ c, rest.head? = some c → isBlank c = true) :
    readLine number .code (writtenLine state name rest) = .ok (here, after) ↔
      (stripComments number .code rest).2 = after ∧ (∀ mark, after ≠ .literal mark) ∧
        ∃ directive,
          writtenDirective state name (stripComments number .code rest).1 = .ok directive ∧
            here = [⟨number, directive⟩] := by
  have hhash : isHashComment (trim (writtenLine state name rest)) = false := by
    rw [trim_writtenLine state hname]
    cases state <;> rfl
  -- a comment right behind the name leaves a space there
  have hkept : ∀ c, (stripComments number .code rest).1.head? = some c → isBlank c = true := by
    intro c hc
    rcases head?_stripComments_code hc with rfl | hhead
    · rfl
    · exact hrest c hhead
  have hstrip : stripComments number .code (writtenLine state name rest) =
      (writtenLine state name (stripComments number .code rest).1,
        (stripComments number .code rest).2) :=
    stripComments_inert_append (fun c hc => isInert_of_mem_writtenFront hname hc) rest
  rw [readLine_eq_ok_iff fun _ => hhash, hstrip, readCode_writtenLine number state hname hkept]

end LayeredFlags.LayerText
