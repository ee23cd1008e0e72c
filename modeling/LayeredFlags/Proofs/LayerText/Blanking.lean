import LayeredFlags.Proofs.LayerText.FirstFault
import LayeredFlags.Proofs.LayerText.Regions
import LayeredFlags.Proofs.Text.FirstLine
/-!
# Block Comments and Blanks

A block comment of a layer text is replaced by its line feeds and a space. All lines keep their
numbers, and the line that the space stands on is stripped as the line that the comment closes on.
That line is read alike as well, with one exception. Without the comment it may be a comment as a
whole, which is skipped before anything in it is looked at, while behind the comment its quotes and
marks count.

## Main definitions

* `BlockComment`: a block comment of a text, from its opening mark to the next closing mark;
* `BlockComment.blanked`: the text with a blank for the comment;
* `BlockComment.LeavesHash`: the exception.

## Main results

* `BlockComment.readLines_text`: the text is read as if a blank stood for the comment, but for the
  test whether the line of the blank is a comment as a whole;
* `BlockComment.parse_blanked_iff`: when the two texts have the same outcome;
* `hiddenHash_differs`: a text that is refused although the blanked one is read.
-/

namespace LayeredFlags.LayerText

open Text

variable {after : Region} {here : List Line} {error : Error}

/-- A block comment of a text. Its opening mark is met in code, on a line that is no comment as a
whole, and the next closing mark ends it. -/
structure BlockComment (text : String) where
  /-- The lines above the one that the comment opens on. -/
  above : List Char
  /-- What stands in front of the comment on its line. -/
  front : List Char
  /-- What stands between the two marks. -/
  body : List Char
  /-- What follows the comment. -/
  behind : List Char
  spelled : text.toList = above ++ (front ++ '/' :: '*' :: (body ++ '*' :: '/' :: behind))
  above_ends : EndsLine above
  front_lineFeed : '\n' ∉ front
  meets : MeetsMark ((lines above).length + 1) (regionBehind 1 .code (lines above)) front
  not_hash : regionBehind 1 .code (lines above) = .code →
    isHashComment (trim (firstLine (front ++ '/' :: '*' :: (body ++ '*' :: '/' :: behind)))) = false
  closes : ¬ ['*', '/'] <:+: body ++ ['*']

namespace BlockComment

variable {text : String} (comment : BlockComment text)

/-- The line that the comment opens on. -/
def openLine : Nat :=
  (lines comment.above).length + 1

/-- The region that the line of the opening mark starts in. -/
def openRegion : Region :=
  regionBehind 1 .code (lines comment.above)

/-- The line that the comment closes on. -/
def closeLine : Nat :=
  comment.openLine + comment.body.count '\n'

/-- The text with the line feeds of the comment and a space in its place. -/
def blanked : String :=
  String.ofList (comment.above ++
    (comment.front ++ (comment.body.filter (· == '\n') ++ ' ' :: comment.behind)))

/-- The lines of the blanked text above the one with the space. -/
def blankedAbove : List (List Char) :=
  lines comment.above ++
    if '\n' ∈ comment.body then
      dropReturn comment.front :: List.replicate (comment.body.count '\n' - 1) []
    else []

/-- The region that the line with the space starts in. -/
def spaceRegion : Region :=
  if '\n' ∈ comment.body then .code else comment.openRegion

/-- The line of the blanked text with the space. -/
def spaceLine : List Char :=
  (if '\n' ∈ comment.body then [] else comment.front) ++ ' ' :: firstLine comment.behind

/-- What is kept of the line with the space, and the region that it ends in. -/
def spaceKept : List Char × Region :=
  stripComments comment.closeLine comment.spaceRegion comment.spaceLine

/-- With a space for the comment, its last line is a comment as a whole. -/
def LeavesHash : Prop :=
  comment.spaceRegion = .code ∧ isHashComment (trim comment.spaceLine) = true

/-- The blanked text is refused for a line above the one with the space. -/
def FaultAbove : Prop :=
  ∃ error, parse comment.blanked = .error error ∧ error.line < comment.closeLine

/-- The last line of the comment may be skipped: no literal is open at its end, and the lines below
have the same outcome as behind code. -/
def Skippable : Prop :=
  (∀ mark, comment.spaceKept.2 ≠ .literal mark) ∧
    readLines (comment.closeLine + 1) comment.spaceKept.2 (otherLines comment.behind) =
      readLines (comment.closeLine + 1) .code (otherLines comment.behind)

/-- The outcome for a text with the lines of the blanked text above the space and with those below
it, if the line between them has the given outcome. -/
def around (line : Except Error (List Line × Region)) : Except Error (List Line) := do
  let (here, _) ← runLines 1 .code comment.blankedAbove
  let (said, next) ← line
  return here ++ (said ++
    (← readLines (comment.closeLine + 1) next (otherLines comment.behind)))

/-! ## The line of the opening mark -/

/-- A piece of the comment holds no closing mark. -/
theorem not_infix {piece : List Char} (h : piece <:+: comment.body ++ ['*']) :
    ¬ ['*', '/'] <:+: piece :=
  fun hmark => comment.closes (hmark.trans h)

theorem meets_openRegion :
    MeetsMark comment.openLine comment.openRegion comment.front :=
  comment.meets

theorem keeps_openRegion : comment.openRegion.ofKept.Keeps := by
  have hne : ∀ mark, comment.openRegion ≠ .literal mark :=
    regionBehind_ne_literal Region.code_ne_literal
  cases hregion : comment.openRegion with
  | literal mark => exact absurd hregion (hne mark)
  | _ => trivial

/-- If the comment goes on below, the line of its opening mark says what stands in front. -/
theorem readLine_opening {piece : List Char} (hpiece : ¬ ['*', '/'] <:+: piece)
    (hline : firstLine (comment.front ++
      '/' :: '*' :: (comment.body ++ '*' :: '/' :: comment.behind)) =
        comment.front ++ '/' :: '*' :: piece) :
    readLine comment.openLine comment.openRegion (comment.front ++ '/' :: '*' :: piece) =
      (·, .block comment.openLine) <$>
        readCode comment.openLine
          (stripComments comment.openLine comment.openRegion comment.front).1 := by
  have hhash : ¬ (comment.openRegion = .code ∧
      isHashComment (trim (comment.front ++ '/' :: '*' :: piece)) = true) := by
    rintro ⟨hcode, hcomment⟩
    rw [← hline, comment.not_hash hcode] at hcomment
    cases hcomment
  rw [readLine_eq_readStripped hhash, stripComments_opening comment.meets_openRegion hpiece]
  rfl

/-- So does that line without the comment. -/
theorem readLine_front :
    readLine comment.openLine comment.openRegion (dropReturn comment.front) =
      (·, .code) <$>
        readCode comment.openLine
          (stripComments comment.openLine comment.openRegion comment.front).1 := by
  have hcode : (stripComments comment.openLine comment.openRegion comment.front).2 = .code :=
    comment.meets_openRegion.ends_in_code
  rcases eq_dropReturn_or comment.front with hfront | hfront
  · rw [← hfront]
    exact readLine_of_ends_in_code hcode
  · -- the line feed takes a blank along, which no trimmed line has
    rw [hfront] at hcode
    obtain ⟨hcode', tail, htail, hkept⟩ :=
      exists_stripComments_append_blank comment.keeps_openRegion rfl hcode
    rw [readLine_of_ends_in_code hcode', hfront, hkept]
    unfold readCode
    rw [trim_append_right htail, ← hfront]

/-! ## The blanked text -/

theorem length_blankedAbove : 1 + comment.blankedAbove.length = comment.closeLine := by
  unfold blankedAbove closeLine openLine
  split_ifs with hspan
  · have hcount := List.count_pos_iff.2 hspan
    rw [List.length_append, List.length_cons, List.length_replicate]
    omega
  · rw [List.append_nil, List.count_eq_zero.2 hspan]
    omega

theorem lines_blanked :
    lines comment.blanked.toList =
      comment.blankedAbove ++ comment.spaceLine :: otherLines comment.behind := by
  rw [blanked, String.toList_ofList, lines_append comment.above_ends, blankedAbove, spaceLine,
    List.append_assoc, List.filter_beq]
  split_ifs with hspan
  · obtain ⟨k, hk⟩ := Nat.exists_eq_add_of_lt (List.count_pos_iff.2 hspan)
    rw [Nat.zero_add] at hk
    rw [hk, Nat.add_sub_cancel, List.replicate_succ, List.cons_append,
      lines_append_lineFeed comment.front_lineFeed, lines_replicate_append,
      ← List.nil_append (' ' :: comment.behind),
      lines_append_firstLine List.not_mem_nil (by decide)]
    rfl
  · rw [List.count_eq_zero.2 hspan, List.replicate_zero, List.nil_append, List.nil_append,
      lines_append_firstLine comment.front_lineFeed (by decide)]

theorem runLines_front (n : Nat) :
    runLines comment.openLine comment.openRegion
        (dropReturn comment.front :: List.replicate n []) =
      (·, .code) <$>
        readCode comment.openLine
          (stripComments comment.openLine comment.openRegion comment.front).1 :=
  runLines_cons_of_silent comment.readLine_front (runLines_replicate _ n)

/-- The run over the lines above the space ends in the region that the line of the space starts
in. -/
theorem after_of_runLines (h : runLines 1 .code comment.blankedAbove = .ok (here, after)) :
    after = comment.spaceRegion := by
  unfold blankedAbove at h
  unfold spaceRegion
  split_ifs at h ⊢ with hspan
  · -- the line of the mark ends in code without the comment, and so do the empty lines below it
    obtain ⟨_, start, _, habove, hfront, -⟩ := runLines_append_eq_ok_iff.1 h
    have hstart : comment.openRegion = start := regionBehind_of_runLines habove
    rw [← hstart, Nat.add_comm] at hfront
    have hrun := comment.runLines_front (comment.body.count '\n' - 1)
    rw [openLine, hfront] at hrun
    obtain ⟨_, -, heq⟩ := map_eq_ok_iff.1 hrun.symm
    exact (Prod.mk.inj heq).2.symm
  · rw [List.append_nil] at h
    exact (regionBehind_of_runLines h).symm

theorem readLines_blanked :
    readLines 1 .code (lines comment.blanked.toList) =
      comment.around (readLine comment.closeLine comment.spaceRegion comment.spaceLine) := by
  rw [lines_blanked, readLines_append, around]
  cases hrun : runLines 1 .code comment.blankedAbove with
  | error error => rfl
  | ok run =>
    obtain ⟨here, after⟩ := run
    obtain rfl := comment.after_of_runLines hrun
    simp only [ok_bind, readLines, comment.length_blankedAbove]
    cases readLine comment.closeLine comment.spaceRegion comment.spaceLine with
    | error error => rfl
    | ok result =>
      simp only [ok_bind]
      cases readLines (comment.closeLine + 1) result.2 (otherLines comment.behind) <;> rfl

/-! ## The text with the comment -/

/-- The given lines of the text, with the last one of the comment behind them, are read as those of
the blanked text, except that the last one is not tested for a comment as a whole. -/
structure ReadAlike (earlier : List (List Char)) (start : Region) (last : List Char) : Prop where
  lines_eq : lines text.toList = earlier ++ last :: otherLines comment.behind
  length_eq : earlier.length = comment.blankedAbove.length
  run_eq : runLines 1 .code earlier =
    (fun run => (run.1, start)) <$> runLines 1 .code comment.blankedAbove
  last_eq : readLine comment.closeLine start last =
    readStripped comment.closeLine comment.spaceKept

theorem lines_closing {piece : List Char} (h : '\n' ∉ piece) (behind : List Char) :
    lines (piece ++ '*' :: '/' :: behind) =
      (piece ++ '*' :: '/' :: firstLine behind) :: otherLines behind := by
  have hpiece : '\n' ∉ piece ++ ['*'] := by simpa using h
  rw [List.append_cons, lines_append_firstLine hpiece (by decide), ← List.append_cons]

/-- A comment on one line leaves the lines above it alone, and its line is stripped as the one with
the space. -/
theorem exists_readAlike_of_not_mem (hspan : '\n' ∉ comment.body) :
    ∃ earlier start last, comment.ReadAlike earlier start last := by
  have habove : comment.blankedAbove = lines comment.above := by
    rw [blankedAbove, if_neg hspan, List.append_nil]
  have hpiece : '\n' ∉ comment.front ++ '/' :: '*' :: comment.body := by
    simpa using ⟨comment.front_lineFeed, hspan⟩
  have hlast := lines_closing hpiece comment.behind
  rw [List.append_assoc, List.append_assoc, List.cons_append, List.cons_append, List.cons_append,
    List.cons_append] at hlast
  refine ⟨lines comment.above, comment.openRegion,
    comment.front ++ '/' :: '*' :: (comment.body ++ '*' :: '/' :: firstLine comment.behind),
    ?_, by rw [habove], ?_, ?_⟩
  · rw [comment.spelled, lines_append comment.above_ends, hlast]
  · rw [habove]
    cases hrun : runLines 1 .code (lines comment.above) with
    | error error => rfl
    | ok run =>
      obtain ⟨here, after⟩ := run
      rw [map_ok, ← regionBehind_of_runLines hrun, openRegion]
  · have hhash : ¬ (comment.openRegion = .code ∧ isHashComment (trim (comment.front ++
        '/' :: '*' :: (comment.body ++ '*' :: '/' :: firstLine comment.behind))) = true) := by
      rintro ⟨hcode, hcomment⟩
      have hnot := comment.not_hash hcode
      rw [firstLine, hlast, List.headD_cons, hcomment] at hnot
      cases hnot
    have hline : comment.closeLine = comment.openLine := by
      rw [closeLine, List.count_eq_zero.2 hspan, Nat.add_zero]
    rw [readLine_eq_readStripped hhash, hline,
      stripComments_comment comment.meets_openRegion comment.closes, spaceKept, spaceRegion,
      spaceLine, if_neg hspan, if_neg hspan, hline]

/-- A comment that spans lines stands on the end of one, on whole lines and on the start of
another one, and none of them holds a closing mark of its own. -/
theorem exists_pieces (hspan : '\n' ∈ comment.body) :
    ∃ first whole last, comment.body.count '\n' = (lines whole).length + 1 ∧
      (∀ piece ∈ first :: (last ++ ['*']) :: lines whole, ¬ ['*', '/'] <:+: piece) ∧
      lines (comment.front ++ '/' :: '*' :: (comment.body ++ '*' :: '/' :: comment.behind)) =
        (comment.front ++ '/' :: '*' :: first) ::
          (lines whole ++ (last ++ '*' :: '/' :: firstLine comment.behind) ::
            otherLines comment.behind) := by
  obtain ⟨first, rest, hbody, hfirst⟩ := List.eq_append_cons_of_mem hspan
  obtain ⟨whole, last, rfl, hwhole, hlast⟩ := exists_endsLine_append rest
  -- a carriage return at the end of the first piece belongs to the line feed behind it
  refine ⟨dropReturn first, whole, last, ?_, ?_, ?_⟩
  · rw [hbody, List.count_append, List.count_cons_self, List.count_append,
      List.count_eq_zero.2 hfirst, List.count_eq_zero.2 hlast, length_lines hwhole]
    omega
  · have hmarked : comment.body ++ ['*'] = first ++ '\n' :: (whole ++ (last ++ ['*'])) := by
      simp [hbody]
    intro piece hmem
    refine comment.not_infix ?_
    rw [hmarked]
    rcases List.mem_cons.1 hmem with rfl | hmem
    · have hstart : dropReturn first <+: first := by
        rcases eq_dropReturn_or first with heq | heq
        · exact heq ▸ List.prefix_refl first
        · exact ⟨['\r'], heq.symm⟩
      exact (hstart.trans (List.prefix_append first _)).isInfix
    · rcases List.mem_cons.1 hmem with rfl | hmem
      · exact ⟨first ++ '\n' :: whole, [], by simp⟩
      · exact (infix_of_mem_lines hmem).trans ⟨first ++ ['\n'], last ++ ['*'], by simp⟩
  · have hopening : '\n' ∉ (comment.front ++ ['/', '*']) ++ first := by
      simpa using ⟨comment.front_lineFeed, hfirst⟩
    have hends := lines_append_lineFeed hopening
      (whole ++ (last ++ '*' :: '/' :: comment.behind))
    rw [dropReturn_append (by simp), lines_append hwhole, lines_closing hlast] at hends
    rw [hbody]
    simpa using hends

/-- A comment that spans lines adds nothing to what its lines say, and its last line is stripped as
the one with the space. -/
theorem exists_readAlike_of_mem (hspan : '\n' ∈ comment.body) :
    ∃ earlier start last, comment.ReadAlike earlier start last := by
  obtain ⟨first, whole, last, hcount, hpieces, hlines⟩ := comment.exists_pieces hspan
  have hopening := comment.readLine_opening (hpieces first (by simp))
    (by rw [firstLine, hlines, List.headD_cons])
  have hbetween : runLines (comment.openLine + 1) (.block comment.openLine) (lines whole) =
      .ok ([], .block comment.openLine) :=
    runLines_of_not_infix fun line hmem => hpieces line (by simp [hmem])
  have habove : comment.blankedAbove = lines comment.above ++
      dropReturn comment.front :: List.replicate (lines whole).length [] := by
    rw [blankedAbove, if_pos hspan, hcount, Nat.add_sub_cancel]
  refine ⟨lines comment.above ++ (comment.front ++ '/' :: '*' :: first) :: lines whole,
    .block comment.openLine, last ++ '*' :: '/' :: firstLine comment.behind, ?_, ?_, ?_, ?_⟩
  · rw [comment.spelled, lines_append comment.above_ends, hlines, List.append_assoc,
      List.cons_append]
  · rw [habove, List.length_append, List.length_append, List.length_cons, List.length_cons,
      List.length_replicate]
  · -- both runs say what the lines above say and what stands in front of the mark
    rw [habove, runLines_append, runLines_append]
    cases hrun : runLines 1 .code (lines comment.above) with
    | error error => rfl
    | ok run =>
      obtain ⟨here, after⟩ := run
      have hstart : comment.openRegion = after := regionBehind_of_runLines hrun
      have hline : 1 + (lines comment.above).length = comment.openLine := Nat.add_comm _ _
      simp only [ok_bind, hline, ← hstart, comment.runLines_front,
        runLines_cons_of_silent hopening hbetween]
      cases readCode comment.openLine
        (stripComments comment.openLine comment.openRegion comment.front).1 <;> rfl
  · rw [readLine_block, stripComments_closing (hpieces (last ++ ['*']) (by simp)), spaceKept,
      spaceRegion, spaceLine, if_pos hspan, if_pos hspan, List.nil_append]

/-- The text is read as the blanked one, but for the test of the line with the space. -/
theorem readLines_text :
    readLines 1 .code (lines text.toList) =
      comment.around (readStripped comment.closeLine comment.spaceKept) := by
  obtain ⟨earlier, start, last, halike⟩ :
      ∃ earlier start last, comment.ReadAlike earlier start last := by
    by_cases hspan : '\n' ∈ comment.body
    · exact comment.exists_readAlike_of_mem hspan
    · exact comment.exists_readAlike_of_not_mem hspan
  rw [halike.lines_eq, readLines_append, halike.run_eq, halike.length_eq,
    comment.length_blankedAbove, around]
  cases runLines 1 .code comment.blankedAbove with
  | error error => rfl
  | ok run =>
    simp only [map_ok, ok_bind, readLines, halike.last_eq]
    cases readStripped comment.closeLine comment.spaceKept with
    | error error => rfl
    | ok result =>
      simp only [ok_bind]
      cases readLines (comment.closeLine + 1) result.2 (otherLines comment.behind) <;> rfl

/-! ## Outcomes -/

theorem parse_text :
    parse text =
      Document.mk <$> comment.around (readStripped comment.closeLine comment.spaceKept) := by
  rw [parse, comment.readLines_text]

theorem parse_blanked :
    parse comment.blanked = Document.mk <$>
      comment.around (readLine comment.closeLine comment.spaceRegion comment.spaceLine) := by
  rw [parse, comment.readLines_blanked]

/-- A comment is worth a blank, unless that leaves a comment as a whole. -/
theorem parse_blanked_of_not_leavesHash (h : ¬ comment.LeavesHash) :
    parse comment.blanked = parse text := by
  rw [parse_blanked, comment.parse_text, readLine_eq_readStripped h]
  rfl

/-- A fault above the space is the fault of both texts. -/
theorem around_of_runLines_eq_error (h : runLines 1 .code comment.blankedAbove = .error error)
    (line : Except Error (List Line × Region)) : comment.around line = .error error := by
  rw [around, h]
  rfl

theorem line_of_runLines_eq_error (h : runLines 1 .code comment.blankedAbove = .error error) :
    error.line < comment.closeLine := by
  obtain ⟨before, raw, after, heq, _, _, _, hline⟩ := runLines_eq_error_iff.1 h
  have hlength := congrArg List.length heq
  rw [List.length_append, List.length_cons] at hlength
  have hclose := comment.length_blankedAbove
  rw [(line_of_readLine_eq_error hline).1]
  omega

/-- Between lines that are read, a line that says nothing leaves the outcome to those below. -/
theorem around_of_silent {start : Region}
    (h : runLines 1 .code comment.blankedAbove = .ok (here, start)) (next : Region) :
    comment.around (.ok ([], next)) =
      (here ++ ·) <$> readLines (comment.closeLine + 1) next (otherLines comment.behind) := by
  rw [around, h]
  simp only [ok_bind, List.nil_append]
  cases readLines (comment.closeLine + 1) next (otherLines comment.behind) <;> rfl

theorem readLine_of_leavesHash (h : comment.LeavesHash) :
    readLine comment.closeLine comment.spaceRegion comment.spaceLine = .ok ([], .code) := by
  rw [h.1, readLine_of_isHashComment comment.closeLine h.2]

theorem readCode_of_leavesHash (h : comment.LeavesHash) :
    readCode comment.closeLine comment.spaceKept.1 = .ok [] := by
  refine readCode_of_isHashComment comment.closeLine ?_
  rw [spaceKept, h.1]
  exact isHashComment_trim_stripComments comment.closeLine h.2

/-- A line that is skipped has no fault, and every other one of the blanked text is below it if the
lines above are read. -/
theorem closeLine_lt_of_parse_blanked {start : Region} (hhash : comment.LeavesHash)
    (hrun : runLines 1 .code comment.blankedAbove = .ok (here, start))
    (h : parse comment.blanked = .error error) : comment.closeLine < error.line := by
  rw [parse_blanked, comment.readLine_of_leavesHash hhash, comment.around_of_silent hrun] at h
  obtain ⟨before, _, _, -, hline, -⟩ :=
    exists_line_of_error (map_eq_error_iff.1 (map_eq_error_iff.1 h))
  omega

/-- Behind lines that are read, the outcomes are the same just if the line may be skipped. -/
theorem parse_blanked_iff_skippable {start : Region} (hhash : comment.LeavesHash)
    (hrun : runLines 1 .code comment.blankedAbove = .ok (here, start)) :
    parse comment.blanked = parse text ↔ comment.Skippable := by
  by_cases hopen : ∃ mark, comment.spaceKept.2 = .literal mark
  · -- the open literal is the fault of the text, and not of the blanked one
    obtain ⟨mark, hmark⟩ := hopen
    have hfault : parse text = .error ⟨comment.closeLine, .malformed .openLiteral⟩ := by
      rw [comment.parse_text, readStripped_of_literal hmark, around, hrun]
      rfl
    refine iff_of_false (fun heq => ?_) fun hskip => hskip.1 mark hmark
    have hbelow := comment.closeLine_lt_of_parse_blanked hhash hrun (heq.trans hfault)
    exact absurd hbelow (Nat.lt_irrefl comment.closeLine)
  · -- the code of the line says nothing, so only the region behind it is left to compare
    have hnext : ∀ mark, comment.spaceKept.2 ≠ .literal mark :=
      fun mark hmark => hopen ⟨mark, hmark⟩
    rw [parse_blanked, comment.parse_text, comment.readLine_of_leavesHash hhash,
      readStripped_of_ne_literal hnext, comment.readCode_of_leavesHash hhash, map_ok,
      comment.around_of_silent hrun, comment.around_of_silent hrun, Skippable,
      and_iff_right hnext, map_inj_right_of_nonempty fun heq => (Document.mk.inj heq),
      map_inj_right_of_nonempty fun heq => List.append_cancel_left heq]
    exact eq_comm

/-- The text with a blank for a block comment has the same outcome as the text itself, unless the
blank leaves a line that is a comment as a whole. Then the line is skipped in the blanked text
only, and the outcomes are the same just if a line above is refused anyway or if the line may be
skipped: no literal is open at its end, and the lines below are read as they are behind code. -/
theorem parse_blanked_iff :
    parse comment.blanked = parse text ↔
      (comment.LeavesHash → comment.FaultAbove ∨ comment.Skippable) := by
  by_cases hhash : comment.LeavesHash
  · rw [imp_iff_right hhash]
    cases hrun : runLines 1 .code comment.blankedAbove with
    | error error =>
      -- neither text is read as far as the space
      have hblanked : parse comment.blanked = .error error := by
        rw [parse_blanked, comment.around_of_runLines_eq_error hrun, map_error]
      have htext : parse text = .error error := by
        rw [comment.parse_text, comment.around_of_runLines_eq_error hrun, map_error]
      exact iff_of_true (hblanked.trans htext.symm)
        (.inl ⟨error, hblanked, comment.line_of_runLines_eq_error hrun⟩)
    | ok run =>
      have habove : ¬ comment.FaultAbove := by
        rintro ⟨error, herror, hline⟩
        have hbelow := comment.closeLine_lt_of_parse_blanked hhash hrun herror
        omega
      rw [or_iff_right habove]
      exact comment.parse_blanked_iff_skippable hhash hrun
  · exact iff_of_true (comment.parse_blanked_of_not_leavesHash hhash) fun h => absurd h hhash

end BlockComment

/-- A comment, and behind it text that is a comment as a whole once the first one is gone. -/
def hiddenHash : BlockComment "/* x */ # don't touch\n" where
  above := []
  front := []
  body := " x ".toList
  behind := " # don't touch\n".toList
  spelled := rfl
  above_ends := .inl rfl
  front_lineFeed := List.not_mem_nil
  meets := .here
  not_hash := fun _ => rfl
  closes := by decide

/-- The apostrophe is skipped with a blank in front and opens a literal behind the comment. -/
theorem hiddenHash_differs :
    hiddenHash.blanked = "  # don't touch\n" ∧ parse hiddenHash.blanked = .ok ⟨[]⟩ ∧
      parse "/* x */ # don't touch\n" = .error ⟨1, .malformed .openLiteral⟩ ∧
      parse hiddenHash.blanked ≠ parse "/* x */ # don't touch\n" := by
  have hblanked : parse hiddenHash.blanked = .ok ⟨[]⟩ := rfl
  have htext : parse "/* x */ # don't touch\n" = .error ⟨1, .malformed .openLiteral⟩ := rfl
  refine ⟨rfl, hblanked, htext, ?_⟩
  rw [hblanked, htext]
  simp

end LayeredFlags.LayerText
