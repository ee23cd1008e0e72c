import LayeredFlags.Flag.Name
import LayeredFlags.LayerText.Comment
import LayeredFlags.Text.Blank
/-!
# Stripping Comments

What `stripComments` leaves of a line. The automaton looks one character ahead at every slash,
star and backslash. One equation for each of its moves (`stripComments_close` to
`stripComments_inCode`) states when that look-ahead decides, and `stripComments_induction`
follows the moves, so that no later proof opens the automaton again.

## Main definitions

* `Region.ofKept`: the region of a place in the kept text, where no block comment is open;
* `OpensComment`: a comment opens at a character of code.

## Main results

* `stripComments_stripComments`: stripping the kept text keeps all of it, so no two characters
  that come together open a new comment;
* `stripComments_inert_append`: characters that open nothing are kept in front of any text;
* `stripComments_of_append_blank`: a text that is kept whole is still kept whole without the
  blanks it ends with;
* `stripComments_append_close`: no block comment is open behind a closing mark that a blank
  stands before.
-/

namespace LayeredFlags.LayerText

open Text

theorem Region.code_ne_literal (mark : Char) : Region.code ≠ .literal mark := by
  intro h
  cases h

theorem Region.block_ne_literal (openedOn : Nat) (mark : Char) :
    Region.block openedOn ≠ .literal mark := by
  intro h
  cases h

theorem Region.code_ne_block (openedOn : Nat) : Region.code ≠ .block openedOn := by
  intro h
  cases h

theorem Region.literal_ne_block (mark : Char) (openedOn : Nat) :
    Region.literal mark ≠ .block openedOn := by
  intro h
  cases h

/-- The region of a place in the kept text: a block comment leaves only code behind. -/
def Region.ofKept : Region → Region
  | .block _ => .code
  | region => region

/-- A comment opens in code at the character, with the given text after it. -/
def OpensComment (c : Char) (rest : List Char) : Prop :=
  c = '/' ∧ (rest.head? = some '/' ∨ rest.head? = some '*')

/-- A block comment closes at the character, with the given text after it. -/
def ClosesComment (c : Char) (rest : List Char) : Prop :=
  c = '*' ∧ rest.head? = some '/'

/-! ## The moves of the automaton -/

section Moves

variable {line openedOn : Nat} {mark c : Char} {rest : List Char}

/-- At the end of a line nothing is left to keep. -/
theorem stripComments_nil (region : Region) : stripComments line region [] = ([], region) := by
  cases region <;> rfl

/-- A block comment that closes leaves a space. -/
theorem stripComments_close :
    stripComments line (.block openedOn) ('*' :: '/' :: rest) =
      (' ' :: (stripComments line .code rest).1, (stripComments line .code rest).2) := rfl

/-- In a block comment a character that does not close it is dropped. -/
theorem stripComments_inBlock (h : ¬ ClosesComment c rest) :
    stripComments line (.block openedOn) (c :: rest) =
      stripComments line (.block openedOn) rest := by
  rw [stripComments]
  rintro tail rfl rfl
  exact h ⟨rfl, rfl⟩

/-- In a literal a backslash and the character after it are kept. -/
theorem stripComments_escape :
    stripComments line (.literal mark) ('\\' :: c :: rest) =
      ('\\' :: c :: (stripComments line (.literal mark) rest).1,
        (stripComments line (.literal mark) rest).2) := rfl

/-- In a literal a character that protects none after it is kept, and it may close the
literal. -/
theorem stripComments_inLiteral (h : c = '\\' → rest = []) :
    stripComments line (.literal mark) (c :: rest) =
      (c :: (stripComments line (if c = mark then .code else .literal mark) rest).1,
        (stripComments line (if c = mark then .code else .literal mark) rest).2) := by
  rw [stripComments]
  rintro d tail hc rfl
  cases h hc

/-- A line comment takes the rest of the line. -/
theorem stripComments_lineComment :
    stripComments line .code ('/' :: '/' :: rest) = ([], .code) := rfl

/-- A block comment opens on its line. -/
theorem stripComments_blockComment :
    stripComments line .code ('/' :: '*' :: rest) = stripComments line (.block line) rest := rfl

/-- In code a character that opens no comment is kept, and it may open a literal. -/
theorem stripComments_inCode (h : ¬ OpensComment c rest) :
    stripComments line .code (c :: rest) =
      (c :: (stripComments line (if isQuote c then .literal c else .code) rest).1,
        (stripComments line (if isQuote c then .literal c else .code) rest).2) := by
  rw [stripComments]
  · rintro tail rfl rfl
    exact h ⟨rfl, .inl rfl⟩
  · rintro tail rfl rfl
    exact h ⟨rfl, .inr rfl⟩

end Moves

/-- Induction along the moves of the automaton on one line. -/
@[elab_as_elim]
theorem stripComments_induction (line : Nat) {motive : Region → List Char → Prop}
    (atEnd : ∀ region, motive region [])
    (close : ∀ openedOn rest, motive .code rest → motive (.block openedOn) ('*' :: '/' :: rest))
    (inBlock : ∀ openedOn c rest, ¬ ClosesComment c rest → motive (.block openedOn) rest →
      motive (.block openedOn) (c :: rest))
    (escape : ∀ mark c rest, motive (.literal mark) rest →
      motive (.literal mark) ('\\' :: c :: rest))
    (inLiteral : ∀ mark c rest, (c = '\\' → rest = []) →
      motive (if c = mark then .code else .literal mark) rest → motive (.literal mark) (c :: rest))
    (lineComment : ∀ rest, motive .code ('/' :: '/' :: rest))
    (blockComment : ∀ rest, motive (.block line) rest → motive .code ('/' :: '*' :: rest))
    (inCode : ∀ c rest, ¬ OpensComment c rest →
      motive (if isQuote c then .literal c else .code) rest → motive .code (c :: rest))
    (region : Region) (text : List Char) : motive region text := by
  induction region, text using stripComments.induct line with
  | case1 region => exact atEnd region
  | case2 openedOn rest _ _ _ ih => exact close openedOn rest ih
  | case3 openedOn c rest hclose ih =>
    -- the definition excludes the closing mark by a pattern, the case by its two characters
    refine inBlock openedOn c rest ?_ ih
    rintro ⟨rfl, hhead⟩
    obtain ⟨tail, rfl⟩ := List.head?_eq_some_iff.1 hhead
    exact hclose tail rfl rfl
  | case4 mark c rest _ _ _ ih => exact escape mark c rest ih
  | case5 mark c rest hescape _ _ _ ih =>
    -- a backslash comes here only as the last character of its line
    refine inLiteral mark c rest (fun hc => ?_) ih
    cases rest with
    | nil => rfl
    | cons d tail => exact (hescape d tail hc rfl).elim
  | case6 rest => exact lineComment rest
  | case7 rest ih => exact blockComment rest ih
  | case8 c rest hline hblock _ _ _ ih =>
    refine inCode c rest ?_ ih
    rintro ⟨rfl, hhead | hhead⟩ <;> obtain ⟨tail, rfl⟩ := List.head?_eq_some_iff.1 hhead
    · exact hline tail rfl rfl
    · exact hblock tail rfl rfl

/-! ## The kept text -/

/-- What is kept from inside a block comment starts with the space that the comment leaves. -/
theorem head?_stripComments_block {line openedOn : Nat} {text : List Char} {c : Char}
    (h : (stripComments line (.block openedOn) text).1.head? = some c) : c = ' ' := by
  -- nothing is kept until the comment closes, so the text is gone through up to there
  induction text with
  | nil => simp [stripComments_nil] at h
  | cons a rest ih =>
    by_cases hclose : ClosesComment a rest
    · obtain ⟨rfl, hhead⟩ := hclose
      obtain ⟨tail, rfl⟩ := List.head?_eq_some_iff.1 hhead
      simpa [stripComments_close] using h.symm
    · rw [stripComments_inBlock hclose] at h
      exact ih h

/-- What is kept from code on starts with the first character there, or with the space of a
comment. -/
theorem head?_stripComments_code {line : Nat} {text : List Char} {c : Char}
    (h : (stripComments line .code text).1.head? = some c) :
    c = ' ' ∨ text.head? = some c := by
  cases text with
  | nil => simp [stripComments_nil] at h
  | cons a rest =>
    by_cases hopen : OpensComment a rest
    · obtain ⟨rfl, hline | hblock⟩ := hopen
      · obtain ⟨tail, rfl⟩ := List.head?_eq_some_iff.1 hline
        simp [stripComments_lineComment] at h
      · -- the comment itself is dropped, and its space comes first
        obtain ⟨tail, rfl⟩ := List.head?_eq_some_iff.1 hblock
        rw [stripComments_blockComment] at h
        exact .inl (head?_stripComments_block h)
    · rw [stripComments_inCode hopen] at h
      exact .inr h

/-- A character that opens no comment opens none before the kept text either. -/
theorem not_opensComment_stripComments {line : Nat} {c : Char} {rest : List Char}
    (h : ¬ OpensComment c rest) :
    ¬ OpensComment c
      (stripComments line (if isQuote c then .literal c else .code) rest).1 := by
  -- a slash opens no literal, and what is kept behind it starts as the text does
  rintro ⟨rfl, hhead | hhead⟩
  · rcases head?_stripComments_code hhead with hspace | hrest
    · cases hspace
    · exact h ⟨rfl, .inl hrest⟩
  · rcases head?_stripComments_code hhead with hspace | hrest
    · cases hspace
    · exact h ⟨rfl, .inr hrest⟩

/-- A kept character comes from the line or is the space of a comment. -/
theorem mem_of_mem_stripComments {line : Nat} {region : Region} {text : List Char} {d : Char}
    (h : d ∈ (stripComments line region text).1) : d ∈ text ∨ d = ' ' := by
  induction region, text using stripComments_induction line with
  | atEnd region => simp [stripComments_nil] at h
  | close openedOn rest ih =>
    rcases List.mem_cons.1 h with rfl | hmem
    · exact .inr rfl
    · exact (ih hmem).imp (fun hd => by simp [hd]) id
  | inBlock openedOn c rest hclose ih =>
    rw [stripComments_inBlock hclose] at h
    exact (ih h).imp (List.mem_cons_of_mem c) id
  | escape mark c rest ih =>
    simp only [stripComments_escape, List.mem_cons] at h ⊢
    rcases h with hd | hd | hmem
    · exact .inl (.inl hd)
    · exact .inl (.inr (.inl hd))
    · exact (ih hmem).imp (fun hd => .inr (.inr hd)) id
  | inLiteral mark c rest hescape ih =>
    rw [stripComments_inLiteral hescape] at h
    rcases List.mem_cons.1 h with rfl | hmem
    · exact .inl (by simp)
    · exact (ih hmem).imp (List.mem_cons_of_mem c) id
  | lineComment rest => simp [stripComments_lineComment] at h
  | blockComment rest ih => exact (ih h).imp (fun hd => by simp [hd]) id
  | inCode c rest hopen ih =>
    rw [stripComments_inCode hopen] at h
    rcases List.mem_cons.1 h with rfl | hmem
    · exact .inl (by simp)
    · exact (ih hmem).imp (List.mem_cons_of_mem c) id

/-- Stripping the kept text, from the region that the line started in, keeps all of it. -/
theorem stripComments_stripComments (line line' : Nat) (region : Region) (text : List Char) :
    stripComments line' region.ofKept (stripComments line region text).1 =
      ((stripComments line region text).1, (stripComments line region text).2.ofKept) := by
  -- induction along the first stripping: the second one makes the same moves on what is kept,
  -- except that it never opens a comment
  induction region, text using stripComments_induction line with
  | atEnd region => rfl
  | close openedOn rest ih =>
    -- the space that stands for the comment
    have hspace : ¬ OpensComment ' ' (stripComments line .code rest).1 := by simp [OpensComment]
    simp only [Region.ofKept] at ih ⊢
    rw [stripComments_close, stripComments_inCode hspace]
    simp [isQuote, ih]
  | inBlock openedOn c rest hclose ih =>
    rw [stripComments_inBlock hclose]
    exact ih
  | escape mark c rest ih =>
    simp only [Region.ofKept] at ih ⊢
    simp only [stripComments_escape, ih]
  | inLiteral mark c rest hescape ih =>
    have hnext : (if c = mark then Region.code else .literal mark).ofKept =
        if c = mark then .code else .literal mark := by split <;> rfl
    -- a backslash that protects nothing is the last character of its line
    have hkept : c = '\\' →
        (stripComments line (if c = mark then .code else .literal mark) rest).1 = [] := by
      intro hc
      rw [hescape hc]
      rfl
    rw [hnext] at ih
    simp only [Region.ofKept]
    rw [stripComments_inLiteral hescape, stripComments_inLiteral hkept, ih]
    rfl
  | lineComment rest => rfl
  | blockComment rest ih => exact ih
  | inCode c rest hopen ih =>
    -- dropping a comment behind `c` does not make `c` open one
    have hnext : (if isQuote c then Region.literal c else .code).ofKept =
        if isQuote c then .literal c else .code := by split <;> rfl
    rw [hnext] at ih
    simp only [Region.ofKept]
    rw [stripComments_inCode hopen, stripComments_inCode (not_opensComment_stripComments hopen), ih]
    rfl

/-! ## Texts that are kept whole -/

/-- The character opens and closes nothing in code, whatever follows it. -/
def isInert (c : Char) : Bool :=
  !isQuote c && c != '/'

/-- A blank opens nothing. -/
theorem isInert_of_isBlank {c : Char} (h : isBlank c = true) : isInert c = true := by
  have hne : ∀ d, isBlank d = false → c ≠ d := by
    rintro d hd rfl
    rw [h] at hd
    cases hd
  simp [isInert, isQuote, hne '/' (by decide), hne '\x22' (by decide), hne '\x27' (by decide)]

/-- No character of an identifier is a blank. -/
theorem isBlank_of_isRest {c : Char} (h : FlagName.isRest c = true) : isBlank c = false := by
  have hcode := FlagName.toNat_of_isRest h
  simp only [isBlank, Bool.or_eq_false_iff, Bool.and_eq_false_iff, decide_eq_false_iff_not,
    beq_eq_false_iff_ne]
  omega

/-- The characters of identifiers open nothing. -/
theorem isInert_of_isRest {c : Char} (h : FlagName.isRest c = true) : isInert c = true := by
  have hcode := FlagName.toNat_of_isRest h
  have hne : ∀ d : Char, c.toNat ≠ d.toNat → c ≠ d := by
    rintro d hd rfl
    exact hd rfl
  simp only [isInert, isQuote, Bool.and_eq_true, Bool.not_eq_true', Bool.or_eq_false_iff,
    beq_eq_false_iff_ne, bne_iff_ne]
  refine ⟨⟨hne _ ?_, hne _ ?_⟩, hne _ ?_⟩
  · change c.toNat ≠ 34
    omega
  · change c.toNat ≠ 39
    omega
  · change c.toNat ≠ 47
    omega

/-- Characters that open nothing are kept in front of any text. -/
theorem stripComments_inert_append {line : Nat} {first : List Char}
    (h : ∀ c ∈ first, isInert c = true) (rest : List Char) :
    stripComments line .code (first ++ rest) =
      (first ++ (stripComments line .code rest).1, (stripComments line .code rest).2) := by
  induction first with
  | nil => rfl
  | cons c first ih =>
    have hc : isQuote c = false ∧ c ≠ '/' := by simpa [isInert] using h c (by simp)
    have hopen : ¬ OpensComment c (first ++ rest) := fun hmark => hc.2 hmark.1
    rw [List.cons_append, stripComments_inCode hopen, hc.1]
    simp [ih fun d hd => h d (by simp [hd])]

/-- The region keeps every character but comments: it is code, or a literal that a quote
opened. -/
def Region.Keeps : Region → Prop
  | .code => True
  | .literal mark => isQuote mark = true
  | .block _ => False

/-- Blanks are kept and change nothing. -/
theorem stripComments_blank {line : Nat} {region : Region} (hregion : region.Keeps)
    {text : List Char} (h : ∀ c ∈ text, isBlank c = true) :
    stripComments line region text = (text, region) := by
  induction text with
  | nil => rfl
  | cons c rest ih =>
    have hc := isInert_of_isBlank (h c (by simp))
    simp only [isInert, Bool.and_eq_true, Bool.not_eq_true', bne_iff_ne] at hc
    have hrest := ih fun d hd => h d (by simp [hd])
    cases region with
    | code =>
      rw [stripComments_inCode fun hopen => hc.2 hopen.1, hc.1]
      simp [hrest]
    | literal mark =>
      -- a blank neither closes the literal nor protects a character
      have hmark : c ≠ mark := by
        rintro rfl
        rw [Region.Keeps, hc.1] at hregion
        cases hregion
      have hescape : c = '\\' → rest = [] := by
        rintro rfl
        exact absurd (h '\\' (by simp)) (by decide)
      rw [stripComments_inLiteral hescape, if_neg hmark, hrest]
    | block openedOn => exact hregion.elim

/-- A character of a literal leads to a region that keeps characters. -/
theorem Region.Keeps.next {mark : Char} (h : (Region.literal mark).Keeps) (c : Char) :
    (if c = mark then Region.code else .literal mark).Keeps := by
  split
  · trivial
  · exact h

/-- A character of code that opens no comment leads to a region that keeps characters. -/
theorem Region.keeps_next_code (c : Char) :
    (if isQuote c then Region.literal c else .code).Keeps := by
  split
  · assumption
  · trivial

/-- A blank after a text opens no comment at the end of the text. -/
theorem not_opensComment_append {c : Char} {rest tail : List Char}
    (h : ¬ OpensComment c rest) (hblank : ∀ d, tail.head? = some d → isBlank d = true) :
    ¬ OpensComment c (rest ++ tail) := by
  cases rest with
  | cons d rest => exact h
  | nil =>
    rintro ⟨rfl, hhead | hhead⟩
    · exact absurd (hblank '/' hhead) (by decide)
    · exact absurd (hblank '*' hhead) (by decide)

/-- No comment closes at the end of a text, unless a slash follows it. -/
theorem not_closesComment_append {c : Char} {rest tail : List Char}
    (h : ¬ ClosesComment c rest) (htail : tail.head? ≠ some '/') :
    ¬ ClosesComment c (rest ++ tail) := by
  cases rest with
  | cons d rest => exact h
  | nil => exact fun hmark => htail hmark.2

/-- A text that is kept whole is still kept whole, and ends in the same region, without the
blanks it ends with. -/
theorem stripComments_of_append_blank {line : Nat} {region after : Region}
    {text blanks : List Char} (hregion : region.Keeps) (hblank : ∀ c ∈ blanks, isBlank c = true)
    (h : stripComments line region (text ++ blanks) = (text ++ blanks, after)) :
    stripComments line region text = (text, after) := by
  -- induction along the shorter text, which makes the moves of the longer one up to its end
  induction region, text using stripComments_induction line with
  | atEnd region =>
    rw [List.nil_append, stripComments_blank hregion hblank] at h
    rw [stripComments_nil, (Prod.mk.inj h).2]
  | close => exact hregion.elim
  | inBlock => exact hregion.elim
  | escape mark c rest ih =>
    simp only [List.cons_append, stripComments_escape, Prod.mk.injEq, List.cons.injEq,
      true_and] at h
    rw [stripComments_escape, ih hregion (Prod.ext h.1 h.2)]
  | inLiteral mark c rest hescape ih =>
    by_cases hlast : c = '\\' → rest ++ blanks = []
    · rw [List.cons_append, stripComments_inLiteral hlast] at h
      simp only [Prod.mk.injEq, List.cons.injEq, true_and] at h
      rw [stripComments_inLiteral hescape, ih (hregion.next c) (Prod.ext h.1 h.2)]
    · -- the backslash would protect the first blank, and the literal stays open either way
      obtain ⟨rfl, hne⟩ := Classical.not_imp.1 hlast
      obtain rfl := hescape rfl
      obtain ⟨d, tail, rfl⟩ := List.exists_cons_of_ne_nil hne
      have hmark : '\\' ≠ mark := by
        rintro rfl
        exact absurd (show isQuote '\\' = true from hregion) (by decide)
      have htail : stripComments line (.literal mark) tail = (tail, .literal mark) :=
        stripComments_blank hregion fun e he => hblank e (List.mem_cons_of_mem d he)
      simp only [List.cons_append, List.nil_append, stripComments_escape, htail,
        Prod.mk.injEq, true_and] at h
      rw [stripComments_inLiteral hescape, if_neg hmark, ← h, stripComments_nil]
  | lineComment rest => simp [stripComments_lineComment] at h
  | blockComment rest ih =>
    rw [List.cons_append, List.cons_append, stripComments_blockComment] at h
    -- the mark is not kept, but a text that is kept whole would start with it
    have hhead : (stripComments line (.block line) (rest ++ blanks)).1.head? = some '/' := by
      rw [h]
      rfl
    cases head?_stripComments_block hhead
  | inCode c rest hopen ih =>
    have hopen' : ¬ OpensComment c (rest ++ blanks) :=
      not_opensComment_append hopen fun d hd => hblank d (List.mem_of_head? hd)
    rw [List.cons_append, stripComments_inCode hopen'] at h
    simp only [Prod.mk.injEq, List.cons.injEq, true_and] at h
    rw [stripComments_inCode hopen, ih (Region.keeps_next_code c) (Prod.ext h.1 h.2)]

/-- A closing mark in code ends in code. -/
theorem stripComments_star_slash (line : Nat) :
    stripComments line .code ['*', '/'] = (['*', '/'], .code) := by
  rw [stripComments_inCode (by simp [OpensComment]), if_neg (by decide),
    stripComments_inCode (by simp [OpensComment]), if_neg (by decide), stripComments_nil]

/-- A closing mark in a literal ends outside of block comments. -/
theorem stripComments_star_slash_ne_block (line : Nat) (mark : Char) (openedOn : Nat) :
    (stripComments line (.literal mark) ['*', '/']).2 ≠ .block openedOn := by
  rw [stripComments_inLiteral (by decide)]
  split
  · -- the star closes the literal
    rw [stripComments_inCode (by simp [OpensComment]), if_neg (by decide), stripComments_nil]
    exact Region.code_ne_block openedOn
  · rw [stripComments_inLiteral (by decide), stripComments_nil]
    split
    · exact Region.code_ne_block openedOn
    · exact Region.literal_ne_block mark openedOn

/-- A blank and a closing mark end outside of block comments, wherever they start. -/
theorem stripComments_close_ne_block (line : Nat) (region : Region) (openedOn : Nat) :
    (stripComments line region [' ', '*', '/']).2 ≠ .block openedOn := by
  cases region with
  | code =>
    rw [stripComments_inCode (by simp [OpensComment]), if_neg (by decide), stripComments_star_slash]
    exact Region.code_ne_block openedOn
  | literal mark =>
    rw [stripComments_inLiteral (by decide)]
    split
    · rw [stripComments_star_slash]
      exact Region.code_ne_block openedOn
    · exact stripComments_star_slash_ne_block line mark openedOn
  | block openedOn' =>
    rw [stripComments_inBlock (by simp [ClosesComment]), stripComments_close, stripComments_nil]
    exact Region.code_ne_block openedOn

/-- No block comment is open behind a closing mark that a blank stands before. -/
theorem stripComments_append_close (line : Nat) (region : Region) (text : List Char)
    (openedOn : Nat) :
    (stripComments line region (text ++ [' ', '*', '/'])).2 ≠ .block openedOn := by
  -- in every region the blank keeps the text from joining the mark into another one
  induction region, text using stripComments_induction line with
  | atEnd region => exact stripComments_close_ne_block line region openedOn
  | close _ rest ih => exact ih
  | inBlock _ c rest hclose ih =>
    rw [List.cons_append, stripComments_inBlock (not_closesComment_append hclose (by decide))]
    exact ih
  | escape mark c rest ih => exact ih
  | inLiteral mark c rest hescape ih =>
    by_cases hc : c = '\\'
    · -- the backslash protects the blank
      obtain rfl := hescape hc
      subst hc
      exact stripComments_star_slash_ne_block line mark openedOn
    · rw [List.cons_append, stripComments_inLiteral fun h => absurd h hc]
      exact ih
  | lineComment rest => simp [stripComments_lineComment]
  | blockComment rest ih => exact ih
  | inCode c rest hopen ih =>
    have hopen' : ¬ OpensComment c (rest ++ [' ', '*', '/']) :=
      not_opensComment_append hopen fun d hd => by
        obtain rfl : ' ' = d := by simpa using hd
        rfl
    rw [List.cons_append, stripComments_inCode hopen']
    exact ih

end LayeredFlags.LayerText
