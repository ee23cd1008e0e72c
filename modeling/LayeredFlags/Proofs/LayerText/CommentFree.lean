import LayeredFlags.Proofs.LayerText.Writable
/-!
# Texts without Comments

Which texts hold no comment is said here without the automaton that strips them. Literals are read
off as wholes, and a comment mark counts where only closed literals and code stand in front of it.
These are exactly the texts that stripping keeps as they are. What stripping leaves of a line is
one of them, so that stripping is a projection onto them.

Stripping takes comments out and puts spaces in. It therefore never brings two characters together
that stood apart, and no mark comes about that the line did not have.

## Main definitions

* `LiteralBody`: what stands between the two marks of a literal;
* `LiteralsClosed`: every literal of the text is closed in it;
* `CommentFree`: besides, no comment mark stands outside of the literals;
* `PiecesOf`: a text that holds nothing but spaces and pieces of a line;
* `Projects`: what stripping has to leave of a line.

## Main results

* `closes_stripComments`: no literal is open in what is left of a line that can be stripped;
* `stripComments_eq_self_iff`: the texts that are kept whole are the texts without comments;
* `piecesOf_stripComments`: what stands together without a space stood together before;
* `projects_stripComments`: stripping is a projection onto the texts without comments.
-/

namespace LayeredFlags.LayerText

/-- The text stands between the two marks of a literal: a backslash protects the character behind
it, and no other character is the mark. -/
inductive LiteralBody (mark : Char) : List Char → Prop where
  /-- A literal may be empty. -/
  | nil : LiteralBody mark []
  /-- A character that neither closes the literal nor protects another one. -/
  | char {c : Char} {rest : List Char} (hmark : c ≠ mark) (hescape : c ≠ '\\')
      (h : LiteralBody mark rest) : LiteralBody mark (c :: rest)
  /-- A backslash and the character that it protects. -/
  | escape {c : Char} {rest : List Char} (h : LiteralBody mark rest) :
      LiteralBody mark ('\\' :: c :: rest)

/-- The text is made of code and whole literals: no literal is open at its end. -/
inductive LiteralsClosed : List Char → Prop where
  /-- Nothing is open in the empty text. -/
  | nil : LiteralsClosed []
  /-- A character of code. -/
  | code {c : Char} {rest : List Char} (hc : isQuote c = false) (h : LiteralsClosed rest) :
      LiteralsClosed (c :: rest)
  /-- A literal between its two marks. -/
  | literal {mark : Char} {body rest : List Char} (hmark : isQuote mark = true)
      (hbody : LiteralBody mark body) (h : LiteralsClosed rest) :
      LiteralsClosed (mark :: (body ++ mark :: rest))

/-- No comment mark stands outside of the literals. A place is outside of them if the text in front
of it has closed all of its own. -/
def Unmarked (text : List Char) : Prop :=
  ∀ front rest, text = front ++ rest → LiteralsClosed front →
    ¬ ['/', '/'] <+: rest ∧ ¬ ['/', '*'] <+: rest

/-- The text holds no comment. -/
structure CommentFree (text : List Char) : Prop where
  /-- No literal is left open. -/
  literals_closed : LiteralsClosed text
  /-- No comment mark stands outside of a literal. -/
  unmarked : Unmarked text

/-- The kept text is a projection of the line, which starts in the given region. -/
structure Projects (region : Region) (raw kept : List Char) : Prop where
  /-- The kept text holds no comment. -/
  commentFree : CommentFree kept
  /-- Where no comment is open, stripping it again keeps all of it and leaves none open. -/
  stable : ∀ line, stripComments line .code kept = (kept, .code)
  /-- Nothing is taken from a line without comments. -/
  keeps_commentFree : region = .code → CommentFree raw → kept = raw
  /-- What stands together in the kept text, without a space, stood together in the line. -/
  joins_nothing : ∀ piece, ' ' ∉ piece → piece <:+: kept → piece <:+: raw

variable {line : Nat} {region after : Region} {mark c : Char} {text front rest body : List Char}

/-! ## Whole literals -/

theorem LiteralsClosed.append (hfront : LiteralsClosed front) (hrest : LiteralsClosed rest) :
    LiteralsClosed (front ++ rest) := by
  induction hfront with
  | nil => exact hrest
  | code hc _ ih => exact .code hc ih
  | literal hmark hbody _ ih =>
    rw [List.cons_append, List.append_assoc]
    exact .literal hmark hbody ih

/-- Behind closed literals, only the marks behind them count. -/
theorem Unmarked.of_append (h : Unmarked (front ++ rest)) (hfront : LiteralsClosed front) :
    Unmarked rest := by
  rintro before behind rfl hbefore
  exact h (front ++ before) behind (List.append_assoc ..).symm (hfront.append hbefore)

/-- A comment opens at a character exactly if one of the marks starts there. -/
theorem opensComment_iff :
    OpensComment c rest ↔ ['/', '/'] <+: c :: rest ∨ ['/', '*'] <+: c :: rest := by
  cases rest with
  | nil => simp [OpensComment]
  | cons d tail => simp [OpensComment, eq_comm, and_or_left]

theorem not_opensComment_of_unmarked (h : Unmarked (c :: rest)) : ¬ OpensComment c rest := by
  obtain ⟨hline, hblock⟩ := h [] (c :: rest) rfl .nil
  rw [opensComment_iff, not_or]
  exact ⟨hline, hblock⟩

/-! ## Literals in the kept text -/

/-- From the given region on, the text closes its literals. A block comment leaves only code
behind. -/
def Region.Closes : Region → List Char → Prop
  | .literal mark, text => ∃ body rest, text = body ++ mark :: rest ∧ LiteralBody mark body ∧
      LiteralsClosed rest
  | _, text => LiteralsClosed text

/-- A character of a literal in front of a text that closes the rest of it. -/
theorem Region.Closes.cons_literal
    (h : (if c = mark then Region.code else .literal mark).Closes text)
    (hescape : c = mark ∨ c ≠ '\\') : (Region.literal mark).Closes (c :: text) := by
  by_cases hmark : c = mark
  · rw [if_pos hmark] at h
    exact ⟨[], text, by rw [hmark, List.nil_append], .nil, h⟩
  · rw [if_neg hmark] at h
    obtain ⟨body, rest, rfl, hbody, hrest⟩ := h
    exact ⟨c :: body, rest, rfl, .char hmark (hescape.resolve_left hmark) hbody, hrest⟩

/-- A character of code in front of a text that closes the literal which it may open. -/
theorem Region.Closes.cons_code (h : (if isQuote c then Region.literal c else .code).Closes text) :
    LiteralsClosed (c :: text) := by
  by_cases hquote : isQuote c = true
  · rw [if_pos hquote] at h
    obtain ⟨body, rest, rfl, hbody, hrest⟩ := h
    exact .literal hquote hbody hrest
  · rw [if_neg hquote] at h
    exact .code (Bool.eq_false_iff.2 hquote) h

/-- The kept text of a line closes its literals, if the line leaves none open. -/
theorem closes_stripComments (h : ∀ mark, (stripComments line region text).2 ≠ .literal mark) :
    region.Closes (stripComments line region text).1 := by
  -- induction along the moves: each of them keeps one more piece of the grammar, or nothing
  induction region, text using stripComments_induction line with
  | atEnd region =>
    cases region with
    | literal mark => exact absurd rfl (h mark)
    | _ => exact .nil
  | close openedOn rest ih => exact .code (by decide) (ih h)
  | inBlock openedOn c rest hclose ih =>
    rw [stripComments_inBlock hclose] at h ⊢
    exact ih h
  | escape mark c rest ih =>
    obtain ⟨body, behind, hkept, hbody, hbehind⟩ := ih h
    rw [stripComments_escape]
    exact ⟨'\\' :: c :: body, behind, by rw [hkept]; rfl, .escape hbody, hbehind⟩
  | inLiteral mark c rest hescape ih =>
    rw [stripComments_inLiteral hescape] at h ⊢
    refine (ih h).cons_literal ?_
    -- a backslash that protects nothing would leave the literal open
    by_cases hmark : c = mark
    · exact .inl hmark
    · refine .inr fun hc => h mark ?_
      rw [hescape hc, if_neg hmark, stripComments_nil]
  | lineComment rest => exact .nil
  | blockComment rest ih => exact ih h
  | inCode c rest hopen ih =>
    rw [stripComments_inCode hopen] at h ⊢
    exact (ih h).cons_code

/-! ## Texts that are kept whole -/

/-- The rest of a literal is kept, and what follows it is stripped from code on. -/
theorem stripComments_literalBody (hmark : isQuote mark = true) (hbody : LiteralBody mark body)
    (rest : List Char) :
    stripComments line (.literal mark) (body ++ mark :: rest) =
      (body ++ mark :: (stripComments line .code rest).1, (stripComments line .code rest).2) := by
  induction hbody with
  | nil =>
    have hescape : mark = '\\' → rest = [] := by
      rintro rfl
      cases hmark
    rw [List.nil_append, stripComments_inLiteral hescape, if_pos rfl]
    rfl
  | char hne hescape _ ih =>
    rw [List.cons_append, stripComments_inLiteral fun hc => absurd hc hescape, if_neg hne, ih]
    rfl
  | escape _ ih =>
    rw [List.cons_append, List.cons_append, stripComments_escape, ih]
    rfl

/-- A literal is kept, and what follows it is stripped from code on. -/
theorem stripComments_literal (hmark : isQuote mark = true) (hbody : LiteralBody mark body)
    (rest : List Char) :
    stripComments line .code (mark :: (body ++ mark :: rest)) =
      (mark :: (body ++ mark :: (stripComments line .code rest).1),
        (stripComments line .code rest).2) := by
  have hopen : ¬ OpensComment mark (body ++ mark :: rest) := by
    rintro ⟨rfl, -⟩
    cases hmark
  rw [stripComments_inCode hopen, if_pos hmark, stripComments_literalBody hmark hbody]

/-- No comment opens at the start of a text that is kept whole. -/
theorem not_opensComment_of_kept
    (h : stripComments line .code (c :: rest) = (c :: rest, after)) : ¬ OpensComment c rest := by
  rintro ⟨rfl, hline | hblock⟩
  · obtain ⟨tail, rfl⟩ := List.head?_eq_some_iff.1 hline
    cases h
  · obtain ⟨tail, rfl⟩ := List.head?_eq_some_iff.1 hblock
    rw [stripComments_blockComment] at h
    -- a comment keeps at most the space at its end, and never its mark
    have hhead : (stripComments line (.block line) tail).1.head? = some '/' := by rw [h]; rfl
    cases head?_stripComments_block hhead

/-- Of a text that is kept whole, what follows closed literals is kept whole as well. -/
theorem kept_of_append (hfront : LiteralsClosed front)
    (h : stripComments line .code (front ++ rest) = (front ++ rest, after)) :
    stripComments line .code rest = (rest, after) := by
  -- induction on the grammar of the front: each piece of it is kept and can be taken off both sides
  induction hfront with
  | nil => exact h
  | @code c tail hc _ ih =>
    rw [List.cons_append] at h
    rw [stripComments_inCode (not_opensComment_of_kept h), hc] at h
    simp only [Prod.mk.injEq, List.cons.injEq, true_and] at h
    exact ih (Prod.ext h.1 h.2)
  | @literal mark body tail hmark hbody _ ih =>
    rw [List.cons_append, List.append_assoc, List.cons_append, stripComments_literal hmark hbody]
      at h
    simp only [Prod.mk.injEq, List.cons.injEq, List.append_cancel_left_eq, true_and] at h
    exact ih (Prod.ext h.1 h.2)

/-- No comment mark stands outside of the literals of a text that is kept whole. -/
theorem unmarked_of_kept (h : stripComments line .code text = (text, after)) : Unmarked text := by
  rintro front rest rfl hfront
  -- a mark behind the front would be the first thing that stripping the rest takes away
  have hrest := kept_of_append hfront h
  cases rest with
  | nil => simp
  | cons c tail =>
    have hopen := not_opensComment_of_kept hrest
    rwa [opensComment_iff, not_or] at hopen

/-- A text without comments is kept whole and ends in code. -/
theorem CommentFree.stripComments_eq (h : CommentFree text) (line : Nat) :
    stripComments line .code text = (text, .code) := by
  obtain ⟨hclosed, hunmarked⟩ := h
  -- induction on the grammar: behind each piece, the text that is left is unmarked as well
  induction hclosed with
  | nil => rfl
  | @code c rest hc _ ih =>
    have hrest : Unmarked rest := @Unmarked.of_append [c] rest hunmarked (.code hc .nil)
    rw [stripComments_inCode (not_opensComment_of_unmarked hunmarked), hc]
    simp [ih hrest]
  | @literal mark body rest hmark hbody _ ih =>
    -- the literal is split off as a whole, so the marks inside it do not count
    have hsplit : mark :: (body ++ mark :: rest) = mark :: (body ++ [mark]) ++ rest := by simp
    rw [hsplit] at hunmarked
    rw [stripComments_literal hmark hbody, ih (hunmarked.of_append (.literal hmark hbody .nil))]

/-- The texts that are kept whole, and that end in code, are the texts without comments. -/
theorem stripComments_eq_self_iff :
    stripComments line .code text = (text, .code) ↔ CommentFree text := by
  refine ⟨fun h => ⟨?_, unmarked_of_kept h⟩, fun h => h.stripComments_eq line⟩
  have hclosed : Region.code.Closes (stripComments line .code text).1 :=
    closes_stripComments (by rw [h]; exact Region.code_ne_literal)
  rwa [h] at hclosed

/-! ## Pieces of the kept text -/

variable {kept raw piece : List Char}

/-- A text that starts with a space starts with no piece but the empty one. -/
theorem eq_nil_of_prefix_of_space (hkept : ∀ c, kept.head? = some c → c = ' ')
    (hspace : ' ' ∉ piece) (h : piece <+: kept) : piece = [] := by
  cases piece with
  | nil => rfl
  | cons c tail =>
    obtain ⟨behind, rfl⟩ := h
    rw [hkept c rfl] at hspace
    exact absurd List.mem_cons_self hspace

/-- Without spaces, a text starts with pieces that the line starts with, and holds pieces that the
line holds. -/
structure PiecesOf (kept raw : List Char) : Prop where
  /-- What the text starts with, up to a space, the line starts with. -/
  starts : ∀ piece, ' ' ∉ piece → piece <+: kept → piece <+: raw
  /-- What the text holds between spaces, the line holds. -/
  holds : ∀ piece, ' ' ∉ piece → piece <:+: kept → piece <:+: raw

namespace PiecesOf

theorem nil (raw : List Char) : PiecesOf [] raw where
  starts piece _ h := by
    rw [List.prefix_nil.1 h]
    exact List.nil_prefix
  holds piece _ h := by
    rw [List.infix_nil.1 h]
    exact List.nil_infix

/-- A character that is kept goes in front of both. -/
theorem cons (h : PiecesOf kept raw) (c : Char) : PiecesOf (c :: kept) (c :: raw) := by
  have hstarts : ∀ piece, ' ' ∉ piece → piece <+: c :: kept → piece <+: c :: raw := by
    intro piece hspace hpiece
    cases piece with
    | nil => exact List.nil_prefix
    | cons d tail =>
      obtain ⟨hd, htail⟩ := List.cons_prefix_cons.1 hpiece
      have hrest := h.starts tail (fun hmem => hspace (List.mem_cons_of_mem d hmem)) htail
      exact List.cons_prefix_cons.2 ⟨hd, hrest⟩
  refine ⟨hstarts, fun piece hspace hpiece => ?_⟩
  -- the piece starts with the new character, or it was there before
  rcases List.infix_cons_iff.1 hpiece with hfirst | hrest
  · exact (hstarts piece hspace hfirst).isInfix
  · exact List.infix_cons (h.holds piece hspace hrest)

/-- In front of a space, a character may be dropped. -/
theorem drop (h : PiecesOf kept raw) (hkept : ∀ c, kept.head? = some c → c = ' ') (c : Char) :
    PiecesOf kept (c :: raw) where
  starts piece hspace hpiece := by
    rw [eq_nil_of_prefix_of_space hkept hspace hpiece]
    exact List.nil_prefix
  holds piece hspace hpiece := List.infix_cons (h.holds piece hspace hpiece)

/-- A space may be put in front. -/
theorem space (h : PiecesOf kept raw) : PiecesOf (' ' :: kept) raw := by
  have hempty : ∀ piece, ' ' ∉ piece → piece <+: ' ' :: kept → piece = [] := fun piece =>
    eq_nil_of_prefix_of_space fun c hc => (Option.some.inj hc).symm
  refine ⟨fun piece hspace hpiece => ?_, fun piece hspace hpiece => ?_⟩
  · rw [hempty piece hspace hpiece]
    exact List.nil_prefix
  · rcases List.infix_cons_iff.1 hpiece with hfirst | hrest
    · rw [hempty piece hspace hfirst]
      exact List.nil_infix
    · exact h.holds piece hspace hrest

end PiecesOf

/-- What is left of a line consists of pieces of the line and of spaces. -/
theorem piecesOf_stripComments (line : Nat) (region : Region) (text : List Char) :
    PiecesOf (stripComments line region text).1 text := by
  -- only a comment drops characters, and what is kept behind it starts with its space
  induction region, text using stripComments_induction line with
  | atEnd region =>
    rw [stripComments_nil]
    exact .nil []
  | close openedOn rest ih =>
    have hspace : ∀ c, (' ' :: (stripComments line .code rest).1).head? = some c → c = ' ' :=
      fun c hc => (Option.some.inj hc).symm
    exact (ih.space.drop hspace '/').drop hspace '*'
  | inBlock openedOn c rest hclose ih =>
    rw [stripComments_inBlock hclose]
    exact ih.drop (fun d => head?_stripComments_block) c
  | escape mark c rest ih => exact (ih.cons c).cons '\\'
  | inLiteral mark c rest hescape ih =>
    rw [stripComments_inLiteral hescape]
    exact ih.cons c
  | lineComment rest => exact .nil _
  | blockComment rest ih =>
    rw [stripComments_blockComment]
    exact (ih.drop (fun d => head?_stripComments_block) '*').drop
      (fun d => head?_stripComments_block) '/'
  | inCode c rest hopen ih =>
    rw [stripComments_inCode hopen]
    exact ih.cons c

/-! ## The projection -/

/-- What is left of a line that starts outside of literals and leaves none open is a projection of
the line onto the texts without comments. -/
theorem projects_stripComments (hstart : ∀ mark, region ≠ .literal mark)
    (hend : ∀ mark, (stripComments line region text).2 ≠ .literal mark) :
    Projects region text (stripComments line region text).1 := by
  have hstable : ∀ again, stripComments again .code (stripComments line region text).1 =
      ((stripComments line region text).1, .code) :=
    fun again => stripComments_kept again hstart hend
  refine
    { commentFree := stripComments_eq_self_iff.1 (hstable line)
      stable := hstable
      keeps_commentFree := ?_
      joins_nothing := (piecesOf_stripComments line region text).holds }
  rintro rfl hfree
  rw [hfree.stripComments_eq]

/-- A line on which a comment ends, with marks in a literal and two comments between a slash and a
star. -/
def wrappedLine : List Char :=
  "end */ \"it's // \\\" kept\" / /* a *//* b */* // rest".toList

/-- The literal is kept with its marks, and the slash and the star stay apart. -/
theorem projects_wrappedLine :
    (∀ mark, Region.block 1 ≠ .literal mark) ∧
      (∀ mark, (stripComments 2 (.block 1) wrappedLine).2 ≠ .literal mark) ∧
      (stripComments 2 (.block 1) wrappedLine).1 =
        "  \"it's // \\\" kept\" /   * ".toList ∧
      Projects (.block 1) wrappedLine (stripComments 2 (.block 1) wrappedLine).1 := by
  have hstart : ∀ mark, Region.block 1 ≠ .literal mark := Region.block_ne_literal 1
  have hend : ∀ mark, (stripComments 2 (.block 1) wrappedLine).2 ≠ .literal mark :=
    Region.code_ne_literal
  exact ⟨hstart, hend, rfl, projects_stripComments hstart hend⟩

end LayeredFlags.LayerText
