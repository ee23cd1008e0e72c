import LayeredFlags.Proofs.LayerText.Reading
/-!
# Opening Marks

A mark `/*` opens a block comment where the line has come back to code. What stands in front of
such a mark is stripped as if the line ended there, and the comment itself leaves the space that
its closing mark leaves, on whichever line that one stands. A line is therefore stripped alike with
the comment and with a blank in its place.

Stripping does not ask whether the line is a comment as a whole. A line that is one before it is
stripped is one afterwards (`isHashComment_trim_stripComments`), but not the other way round.

## Main definitions

* `MeetsMark`: the line is in code behind the given characters, and no comment opens in between
  them and a mark.

## Main results

* `stripComments_append_of_meetsMark`: what stands in front of a mark, and what stands behind it;
* `stripComments_comment`: a comment that closes on its line;
* `stripComments_opening`, `stripComments_closing`: the two ends of a comment that spans lines;
* `exists_meetsMark`: a comment that is left open on its line was opened at such a mark.
-/

namespace LayeredFlags.LayerText

open Text

/-- From the given region, the characters lead to code, and a mark `/*` behind them opens a block
comment there. -/
inductive MeetsMark (line : Nat) : Region → List Char → Prop where
  /-- The mark is next. -/
  | here : MeetsMark line .code []
  /-- An earlier comment closes in front of the mark. -/
  | close {openedOn : Nat} {rest : List Char} (h : MeetsMark line .code rest) :
      MeetsMark line (.block openedOn) ('*' :: '/' :: rest)
  /-- The character belongs to an earlier comment. -/
  | inBlock {openedOn : Nat} {c : Char} {rest : List Char} (hclose : ¬ ClosesComment c rest)
      (h : MeetsMark line (.block openedOn) rest) : MeetsMark line (.block openedOn) (c :: rest)
  /-- A backslash protects the character behind it. -/
  | escape {mark c : Char} {rest : List Char} (h : MeetsMark line (.literal mark) rest) :
      MeetsMark line (.literal mark) ('\\' :: c :: rest)
  /-- The character belongs to a literal, which it may close. -/
  | inLiteral {mark c : Char} {rest : List Char} (hescape : c ≠ '\\')
      (h : MeetsMark line (if c = mark then .code else .literal mark) rest) :
      MeetsMark line (.literal mark) (c :: rest)
  /-- An earlier comment opens. -/
  | blockComment {rest : List Char} (h : MeetsMark line (.block line) rest) :
      MeetsMark line .code ('/' :: '*' :: rest)
  /-- The character is code, and no comment opens at it, not even with the mark. -/
  | inCode {c : Char} {rest : List Char} (hopen : ¬ OpensComment c (rest ++ ['/', '*']))
      (h : MeetsMark line (if isQuote c then .literal c else .code) rest) :
      MeetsMark line .code (c :: rest)

variable {line openedOn : Nat} {region : Region} {front body text : List Char}

/-! ## What stands in front of a mark -/

theorem MeetsMark.ne_nil (h : MeetsMark line (.block openedOn) text) : text ≠ [] := by
  rintro rfl
  cases h

/-- No character in front of a mark opens a comment with what stands behind it. -/
theorem not_opensComment_of_mark {c : Char} {rest : List Char}
    (h : ¬ OpensComment c (rest ++ ['/', '*'])) (tail : List Char) :
    ¬ OpensComment c (rest ++ tail) := by
  cases rest with
  | cons d rest => exact h
  | nil =>
    rintro ⟨rfl, -⟩
    exact h ⟨rfl, .inl rfl⟩

/-- What stands in front of a mark is stripped as if nothing followed it, and what follows it is
stripped from code on. -/
theorem stripComments_append_of_meetsMark (h : MeetsMark line region front)
    (rest : List Char) :
    stripComments line region (front ++ rest) =
      ((stripComments line region front).1 ++ (stripComments line .code rest).1,
        (stripComments line .code rest).2) := by
  -- induction along the way to the mark: what the automaton looks ahead at stands in front of the
  -- mark or is its slash, and the slash is needed only to see that nothing opens there
  induction h with
  | here => rfl
  | close _ ih =>
    rw [List.cons_append, List.cons_append, stripComments_close, stripComments_close, ih]
    rfl
  | @inBlock openedOn c before hclose hbefore ih =>
    have hclose' : ¬ ClosesComment c (before ++ rest) := by
      obtain ⟨d, tail, rfl⟩ := List.exists_cons_of_ne_nil hbefore.ne_nil
      exact hclose
    rw [List.cons_append, stripComments_inBlock hclose', stripComments_inBlock hclose, ih]
  | escape _ ih =>
    rw [List.cons_append, List.cons_append, stripComments_escape, stripComments_escape, ih]
    rfl
  | inLiteral hescape _ ih =>
    rw [List.cons_append, stripComments_inLiteral fun hc => absurd hc hescape,
      stripComments_inLiteral fun hc => absurd hc hescape, ih]
    rfl
  | blockComment _ ih =>
    rw [List.cons_append, List.cons_append, stripComments_blockComment,
      stripComments_blockComment, ih]
  | @inCode c before hopen _ ih =>
    have hopen' := not_opensComment_of_mark hopen []
    rw [List.append_nil] at hopen'
    rw [List.cons_append, stripComments_inCode (not_opensComment_of_mark hopen rest),
      stripComments_inCode hopen', ih]
    rfl

theorem MeetsMark.ends_in_code (h : MeetsMark line region front) :
    (stripComments line region front).2 = .code := by
  have hall := stripComments_append_of_meetsMark h []
  rw [List.append_nil] at hall
  rw [hall]
  rfl

/-! ## The comment -/

/-- A text without a closing mark leaves the comment open. -/
theorem stripComments_of_not_infix (h : ¬ ['*', '/'] <:+: text) :
    stripComments line (.block openedOn) text = ([], .block openedOn) := by
  induction text with
  | nil => rfl
  | cons c rest ih =>
    have hclose : ¬ ClosesComment c rest := by
      rintro ⟨rfl, hhead⟩
      obtain ⟨tail, rfl⟩ := List.head?_eq_some_iff.1 hhead
      exact h ⟨[], tail, rfl⟩
    rw [stripComments_inBlock hclose]
    exact ih fun hmark => h (hmark.trans (List.suffix_cons c rest).isInfix)

/-- Up to its closing mark a comment leaves a space. -/
theorem stripComments_closing (h : ¬ ['*', '/'] <:+: body ++ ['*']) (rest : List Char) :
    stripComments line (.block openedOn) (body ++ '*' :: '/' :: rest) =
      stripComments line .code (' ' :: rest) := by
  induction body with
  | nil => rw [List.nil_append, stripComments_close, stripComments_inCode (by simp [OpensComment]),
      if_neg (by decide)]
  | cons c body ih =>
    have hclose : ¬ ClosesComment c (body ++ '*' :: '/' :: rest) := by
      -- such a mark would end within the body or with its last star
      rintro ⟨rfl, hhead⟩
      cases body with
      | nil => cases hhead
      | cons d tail =>
        obtain rfl := Option.some.inj hhead
        exact h ⟨[], tail ++ ['*'], rfl⟩
    rw [List.cons_append, stripComments_inBlock hclose]
    exact ih fun hmark => h (hmark.trans (List.suffix_cons c _).isInfix)

/-- The line that a comment opens on keeps what stands in front of the mark. -/
theorem stripComments_opening (hmark : MeetsMark line region front)
    (h : ¬ ['*', '/'] <:+: body) :
    stripComments line region (front ++ '/' :: '*' :: body) =
      ((stripComments line region front).1, .block line) := by
  rw [stripComments_append_of_meetsMark hmark, stripComments_blockComment,
    stripComments_of_not_infix h, List.append_nil]

/-- A line is stripped alike with a comment and with a blank in its place. -/
theorem stripComments_comment (hmark : MeetsMark line region front)
    (h : ¬ ['*', '/'] <:+: body ++ ['*']) (rest : List Char) :
    stripComments line region (front ++ '/' :: '*' :: (body ++ '*' :: '/' :: rest)) =
      stripComments line region (front ++ ' ' :: rest) := by
  rw [stripComments_append_of_meetsMark hmark, stripComments_append_of_meetsMark hmark,
    stripComments_blockComment, stripComments_closing h]

/-- A comment that a line leaves open was open before it, or it was opened at a mark. -/
theorem exists_meetsMark (h : (stripComments line region text).2 = .block openedOn) :
    region = .block openedOn ∧ ¬ ['*', '/'] <:+: text ∨
      openedOn = line ∧ ∃ front body, text = front ++ '/' :: '*' :: body ∧
        MeetsMark line region front ∧ ¬ ['*', '/'] <:+: body := by
  -- induction along the moves: a comment that opens is closed again later, or it is the last one
  induction region, text using stripComments_induction line with
  | atEnd region => exact .inl ⟨h, by simp⟩
  | close _ rest ih =>
    rcases ih h with ⟨hcode, -⟩ | ⟨hline, front, body, rfl, hmark, hbody⟩
    · cases hcode
    · exact .inr ⟨hline, '*' :: '/' :: front, body, rfl, hmark.close, hbody⟩
  | inBlock _ c rest hclose ih =>
    rw [stripComments_inBlock hclose] at h
    rcases ih h with ⟨hblock, hrest⟩ | ⟨hline, front, body, rfl, hmark, hbody⟩
    · refine .inl ⟨hblock, fun hmark => ?_⟩
      rcases List.infix_cons_iff.1 hmark with ⟨tail, heq⟩ | hrest'
      · obtain ⟨rfl, rfl⟩ := List.cons.inj heq
        exact hclose ⟨rfl, rfl⟩
      · exact hrest hrest'
    · refine .inr ⟨hline, c :: front, body, rfl, .inBlock (fun hmark' => ?_) hmark, hbody⟩
      obtain ⟨d, tail, rfl⟩ := List.exists_cons_of_ne_nil hmark.ne_nil
      exact hclose hmark'
  | escape mark c rest ih =>
    rcases ih h with ⟨hliteral, -⟩ | ⟨hline, front, body, rfl, hmark, hbody⟩
    · cases hliteral
    · exact .inr ⟨hline, '\\' :: c :: front, body, rfl, hmark.escape, hbody⟩
  | inLiteral mark c rest hescape ih =>
    rw [stripComments_inLiteral hescape] at h
    rcases ih h with ⟨hnext, -⟩ | ⟨hline, front, body, rfl, hmark, hbody⟩
    · split at hnext <;> cases hnext
    · refine .inr ⟨hline, c :: front, body, rfl, .inLiteral (fun hc => ?_) hmark, hbody⟩
      cases (List.append_eq_nil_iff.1 (hescape hc)).2
  | lineComment rest => cases h
  | blockComment rest ih =>
    rcases ih h with ⟨hblock, hrest⟩ | ⟨hline, front, body, rfl, hmark, hbody⟩
    · exact .inr ⟨(Region.block.inj hblock).symm, [], rest, rfl, .here, hrest⟩
    · exact .inr ⟨hline, '/' :: '*' :: front, body, rfl, hmark.blockComment, hbody⟩
  | inCode c rest hopen ih =>
    rw [stripComments_inCode hopen] at h
    rcases ih h with ⟨hnext, -⟩ | ⟨hline, front, body, rfl, hmark, hbody⟩
    · split at hnext <;> cases hnext
    · refine .inr ⟨hline, c :: front, body, rfl, .inCode (fun hopen' => hopen ?_) hmark, hbody⟩
      cases front <;> exact hopen'

/-! ## Blanks at the end of a line -/

/-- Outside of comments, a region that keeps characters is its own place in the kept text. -/
theorem Region.Keeps.ofKept (h : region.Keeps) : region.ofKept.Keeps := by
  cases region with
  | block openedOn => exact h.elim
  | _ => exact h

/-- A blank behind a line that ends in code adds nothing but blanks to what is kept. -/
theorem exists_stripComments_append_blank {c : Char} (hregion : region.ofKept.Keeps)
    (hc : isBlank c = true) (h : (stripComments line region (text ++ [c])).2 = .code) :
    (stripComments line region text).2 = .code ∧ ∃ tail, (∀ d ∈ tail, isBlank d = true) ∧
      (stripComments line region (text ++ [c])).1 = (stripComments line region text).1 ++ tail := by
  have hblank : ∀ d ∈ [c], isBlank d = true := List.forall_mem_singleton.2 hc
  -- induction along the shorter line, which makes the moves of the longer one up to its end
  induction region, text using stripComments_induction line with
  | atEnd region =>
    rw [List.nil_append] at h ⊢
    cases region with
    | code =>
      have hkept : stripComments line .code [c] = ([c], .code) :=
        stripComments_blank hregion hblank
      rw [hkept]
      exact ⟨rfl, [c], hblank, rfl⟩
    | literal mark =>
      -- a blank does not close the literal
      have hkept : stripComments line (.literal mark) [c] = ([c], .literal mark) :=
        stripComments_blank hregion hblank
      rw [hkept] at h
      cases h
    | block openedOn =>
      have hclose : ¬ ClosesComment c [] := by simp [ClosesComment]
      rw [stripComments_inBlock hclose] at h
      cases h
  | close openedOn rest ih =>
    obtain ⟨hcode, tail, htail, hkept⟩ := ih trivial h
    exact ⟨hcode, tail, htail, congrArg (' ' :: ·) hkept⟩
  | inBlock openedOn d rest hclose ih =>
    have hclose' : ¬ ClosesComment d (rest ++ [c]) := by
      refine not_closesComment_append hclose fun hhead => ?_
      rw [Option.some.inj hhead] at hc
      cases hc
    rw [List.cons_append, stripComments_inBlock hclose'] at h ⊢
    rw [stripComments_inBlock hclose]
    exact ih trivial h
  | escape mark d rest ih =>
    obtain ⟨hcode, tail, htail, hkept⟩ := ih hregion h
    exact ⟨hcode, tail, htail, congrArg ('\\' :: d :: ·) hkept⟩
  | inLiteral mark d rest hescape ih =>
    by_cases hd : d = '\\'
    · -- the backslash would protect the blank, and the literal stays open
      obtain rfl := hescape hd
      subst hd
      cases h
    · have hescape' : d = '\\' → rest ++ [c] = [] := fun heq => absurd heq hd
      rw [List.cons_append, stripComments_inLiteral hescape'] at h ⊢
      rw [stripComments_inLiteral hescape]
      obtain ⟨hcode, tail, htail, hkept⟩ := ih (Region.Keeps.next hregion d).ofKept h
      exact ⟨hcode, tail, htail, congrArg (d :: ·) hkept⟩
  | lineComment rest => exact ⟨rfl, [], List.forall_mem_nil _, rfl⟩
  | blockComment rest ih => exact ih trivial h
  | inCode d rest hopen ih =>
    have hopen' : ¬ OpensComment d (rest ++ [c]) :=
      not_opensComment_append hopen fun e he => by rwa [← Option.some.inj he]
    rw [List.cons_append, stripComments_inCode hopen'] at h ⊢
    rw [stripComments_inCode hopen]
    obtain ⟨hcode, tail, htail, hkept⟩ := ih (Region.keeps_next_code d).ofKept h
    exact ⟨hcode, tail, htail, congrArg (d :: ·) hkept⟩

/-! ## Comments as a whole -/

theorem isHashComment_of_ne {c : Char} (h : c ≠ '#') (rest : List Char) :
    isHashComment (c :: rest) = false := by
  rw [isHashComment.eq_def]
  simp [h]

theorem isHashComment_cons_cons (d : Char) (rest : List Char) :
    isHashComment ('#' :: d :: rest) = (isBlank d || d == '#') := rfl

/-- Blanks at the end of a line do not decide whether it is a comment as a whole. -/
theorem isHashComment_trimEnd (text : List Char) :
    isHashComment (trimEnd text) = isHashComment text := by
  cases text with
  | nil => rfl
  | cons c rest =>
    by_cases hc : c = '#'
    · subst hc
      have hmark : ∀ c, ['#'].getLast? = some c → isBlank c = false := by
        intro c hc
        obtain rfl := Option.some.inj hc
        rfl
      have hend : trimEnd ('#' :: rest) = '#' :: trimEnd rest := trimEnd_append_left hmark rest
      obtain ⟨after, hrest, hafter⟩ := exists_trimEnd rest
      rw [hend]
      cases hcut : trimEnd rest with
      | nil =>
        -- only blanks follow the `#`, and one of them is enough
        rw [hcut, List.nil_append] at hrest
        cases after with
        | nil => rw [hrest]
        | cons d tail =>
          rw [hrest, isHashComment_cons_cons, hafter d List.mem_cons_self]
          rfl
      | cons d tail =>
        rw [hcut] at hrest
        rw [hrest]
        rfl
    · obtain ⟨after, htext, -⟩ := exists_trimEnd (c :: rest)
      rw [isHashComment_of_ne hc]
      cases hcut : trimEnd (c :: rest) with
      | nil => rfl
      | cons d tail =>
        rw [hcut] at htext
        obtain ⟨rfl, -⟩ := List.cons.inj htext
        exact isHashComment_of_ne hc tail

/-- A line that is a comment as a whole is one still when it is stripped. -/
theorem isHashComment_trim_stripComments (line : Nat) (h : isHashComment (trim text) = true) :
    isHashComment (trim (stripComments line .code text).1) = true := by
  obtain ⟨before, htext, hbefore⟩ := exists_trimStart text
  rw [trim, isHashComment_trimEnd] at h
  -- the blanks in front are kept, and so are the `#` and the character behind it
  rw [htext, stripComments_inert_append fun c hc => isInert_of_isBlank (hbefore c hc), trim,
    trimStart_append hbefore, isHashComment_trimEnd]
  cases hstart : trimStart text with
  | nil =>
    rw [hstart] at h
    cases h
  | cons c rest =>
    rw [hstart] at h
    obtain rfl : c = '#' := by
      refine Decidable.byContradiction fun hc => ?_
      rw [isHashComment_of_ne hc] at h
      cases h
    cases rest with
    | nil => rfl
    | cons d tail =>
      -- the character that makes the line a comment opens none of another kind
      have hmark : isBlank d = true ∨ d = '#' := by simpa [isHashComment_cons_cons] using h
      have hd : isInert d = true := by
        rcases hmark with hblank | rfl
        · exact isInert_of_isBlank hblank
        · decide
      have hkept := @stripComments_inert_append line ['#', d] (by simpa using ⟨by decide, hd⟩) tail
      rw [show '#' :: d :: tail = ['#', d] ++ tail from rfl, hkept]
      exact h

end LayeredFlags.LayerText
