import LayeredFlags.LayerText.Document
import LayeredFlags.Proofs.LayerText.Stripping
import LayeredFlags.Proofs.Outcome
/-!
# Reading Lines

Reading the lines of a layer text is a run that carries a region from line to line.
`runLines` keeps that region in its result, so that the run over two pieces of a text is the
run over the first one followed by the run over the second one.

## Main definitions

* `runLines`: what some lines say, and the region after them;
* `Region.later`, `Line.later`, `Error.later`: the same, some lines further down.

## Main results

* `readLine_eq_ok_iff`, `readLine_cases`: when a line is read, and what it says;
* `readLines_append`: reading joined lines is a run over the first lines, then reading the
  others;
* `readLines_later`: the line that reading starts on changes nothing but line numbers.
-/

namespace LayeredFlags.LayerText

open Text

/-! ## One line -/

/-- A line that is no comment as a whole is read if no literal is left open on it and if what
its comments leave is read. -/
theorem readLine_eq_ok_iff {number : Nat} {region after : Region} {raw : List Char}
    {here : List Line} (hhash : region = .code → isHashComment (trim raw) = false) :
    readLine number region raw = .ok (here, after) ↔
      (stripComments number region raw).2 = after ∧ (∀ mark, after ≠ .literal mark) ∧
        readCode number (stripComments number region raw).1 = .ok here := by
  have hskip : ¬ (region = .code ∧ isHashComment (trim raw) = true) := by
    rintro ⟨hcode, hcomment⟩
    rw [hhash hcode] at hcomment
    cases hcomment
  rw [readLine, if_neg hskip]
  obtain ⟨kept, last⟩ := stripComments number region raw
  cases last with
  | literal mark =>
    constructor
    · intro h
      cases h
    · rintro ⟨rfl, hne, -⟩
      exact absurd rfl (hne mark)
  | code =>
    simp only [bind_eq_ok_iff, pure_eq_ok, Except.ok.injEq, Prod.mk.injEq]
    constructor
    · rintro ⟨_, hcode, rfl, rfl⟩
      exact ⟨rfl, Region.code_ne_literal, hcode⟩
    · rintro ⟨rfl, -, hcode⟩
      exact ⟨here, hcode, rfl, rfl⟩
  | block openedOn =>
    simp only [bind_eq_ok_iff, pure_eq_ok, Except.ok.injEq, Prod.mk.injEq]
    constructor
    · rintro ⟨_, hcode, rfl, rfl⟩
      exact ⟨rfl, Region.block_ne_literal openedOn, hcode⟩
    · rintro ⟨rfl, -, hcode⟩
      exact ⟨here, hcode, rfl, rfl⟩

/-- A line that is a comment as a whole says nothing. -/
theorem readLine_of_isHashComment {raw : List Char} (number : Nat)
    (h : isHashComment (trim raw) = true) : readLine number .code raw = .ok ([], .code) := by
  rw [readLine, if_pos ⟨rfl, h⟩]

/-- A line that is read is a comment as a whole, or no literal is left open on it and what its
comments leave is read. -/
theorem readLine_cases {number : Nat} {region after : Region} {raw : List Char}
    {here : List Line} (h : readLine number region raw = .ok (here, after)) :
    (region = .code ∧ isHashComment (trim raw) = true ∧ here = [] ∧ after = .code) ∨
      ((region = .code → isHashComment (trim raw) = false) ∧
        (stripComments number region raw).2 = after ∧ (∀ mark, after ≠ .literal mark) ∧
        readCode number (stripComments number region raw).1 = .ok here) := by
  by_cases hhash : region = .code ∧ isHashComment (trim raw) = true
  · obtain ⟨rfl, hcomment⟩ := hhash
    rw [readLine_of_isHashComment number hcomment] at h
    cases h
    exact .inl ⟨rfl, hcomment, rfl, rfl⟩
  · have hskip : region = .code → isHashComment (trim raw) = false := by
      intro hcode
      simpa using fun hcomment => hhash ⟨hcode, hcomment⟩
    exact .inr ⟨hskip, (readLine_eq_ok_iff hskip).1 h⟩

/-- No literal is left open after a line that is read. -/
theorem ne_literal_of_readLine {number : Nat} {region after : Region} {raw : List Char}
    {here : List Line} (h : readLine number region raw = .ok (here, after)) (mark : Char) :
    after ≠ .literal mark := by
  rcases readLine_cases h with ⟨-, -, -, rfl⟩ | ⟨-, -, hne, -⟩
  · exact Region.code_ne_literal mark
  · exact hne mark

/-! ## Runs of lines -/

/-- Read some lines from the given one on: what they say, and the region after them. -/
def runLines (number : Nat) (region : Region) :
    List (List Char) → Except Error (List Line × Region)
  | [] => .ok ([], region)
  | raw :: rest => do
    let (here, after) ← readLine number region raw
    let (there, last) ← runLines (number + 1) after rest
    return (here ++ there, last)

/-- A run over a line and more reads the line, and runs over the others from the region behind
it. -/
theorem runLines_cons_eq_ok_iff {number : Nat} {region after : Region} {raw : List Char}
    {rest : List (List Char)} {here : List Line} :
    runLines number region (raw :: rest) = .ok (here, after) ↔
      ∃ first next there, readLine number region raw = .ok (first, next) ∧
        runLines (number + 1) next rest = .ok (there, after) ∧ first ++ there = here := by
  rw [runLines, bind_eq_ok_iff]
  constructor
  · rintro ⟨⟨first, next⟩, hline, hrest⟩
    obtain ⟨⟨there, last⟩, hrun, heq⟩ := bind_eq_ok_iff.1 hrest
    cases heq
    exact ⟨first, next, there, hline, hrun, rfl⟩
  · rintro ⟨first, next, there, hline, hrun, rfl⟩
    exact ⟨(first, next), hline, bind_eq_ok_iff.2 ⟨(there, after), hrun, rfl⟩⟩

/-- Behind a line the others are counted from the next number on. -/
theorem add_length_cons (number : Nat) (raw : List Char) (rest : List (List Char)) :
    number + (raw :: rest).length = number + 1 + rest.length := by
  rw [List.length_cons]
  omega

/-- Reading joined lines is a run over the first lines, then reading the others. -/
theorem readLines_append (number : Nat) (region : Region) (first second : List (List Char)) :
    readLines number region (first ++ second) = (do
      let (here, after) ← runLines number region first
      return here ++ (← readLines (number + first.length) after second)) := by
  -- induction on the first lines: each step hands its region to the next
  induction first generalizing number region with
  | nil =>
    rw [runLines]
    cases h : readLines number region second <;> simp [h]
  | cons raw first ih =>
    rw [List.cons_append, readLines, runLines]
    cases readLine number region raw with
    | error error => rfl
    | ok result =>
      obtain ⟨here, after⟩ := result
      simp only [ok_bind, ih, add_length_cons]
      cases runLines (number + 1) after first with
      | error error => rfl
      | ok result =>
        obtain ⟨there, last⟩ := result
        simp only [ok_bind, pure_eq_ok]
        cases readLines (number + 1 + first.length) last second with
        | error error => rfl
        | ok others => simp

/-- Reading lines succeeds exactly when the run over them does and leaves no comment open. -/
theorem readLines_eq_ok_iff {number : Nat} {region : Region} {raws : List (List Char)}
    {here : List Line} :
    readLines number region raws = .ok here ↔
      ∃ after, runLines number region raws = .ok (here, after) ∧
        ∀ openedOn, after ≠ .block openedOn := by
  -- a text is its lines followed by no lines, and only the end looks at the last region
  have happend := readLines_append number region raws []
  rw [List.append_nil] at happend
  rw [happend, bind_eq_ok_iff]
  constructor
  · rintro ⟨⟨there, after⟩, hrun, hend⟩
    cases after with
    | block openedOn => cases hend
    | code =>
      obtain rfl : there = here := by simpa [readLines] using hend
      exact ⟨.code, hrun, Region.code_ne_block⟩
    | literal mark =>
      obtain rfl : there = here := by simpa [readLines] using hend
      exact ⟨.literal mark, hrun, Region.literal_ne_block mark⟩
  · rintro ⟨after, hrun, hne⟩
    refine ⟨(here, after), hrun, ?_⟩
    cases after with
    | block openedOn => exact absurd rfl (hne openedOn)
    | code => simp [readLines]
    | literal mark => simp [readLines]

/-- A run that does not start in a literal does not end in one. -/
theorem ne_literal_of_runLines {number : Nat} {region after : Region} {raws : List (List Char)}
    {here : List Line} (hstart : ∀ mark, region ≠ .literal mark)
    (h : runLines number region raws = .ok (here, after)) (mark : Char) :
    after ≠ .literal mark := by
  -- a line with an open literal is refused, so no later line starts in one
  induction raws generalizing number region here with
  | nil =>
    cases h
    exact hstart mark
  | cons raw rest ih =>
    obtain ⟨first, next, there, hline, hrun, rfl⟩ := runLines_cons_eq_ok_iff.1 h
    exact ih (fun mark => ne_literal_of_readLine hline mark) hrun

/-! ## Line numbers -/

/-- The region, with the line of an open comment further down. -/
def Region.later (k : Nat) : Region → Region
  | .block openedOn => .block (openedOn + k)
  | region => region

/-- Code stays code. -/
theorem Region.later_code (k : Nat) : Region.later k .code = .code := rfl

/-- The same directive on a line further down. -/
def Line.later (k : Nat) (line : Line) : Line :=
  { line with number := line.number + k }

/-- The same fault on a line further down. -/
def Error.later (k : Nat) (error : Error) : Error :=
  { error with line := error.line + k }

/-- Lines further down hold the same directives. -/
theorem map_directive_later (k : Nat) (here : List Line) :
    (here.map (Line.later k)).map (·.directive) = here.map (·.directive) := by
  simp [Line.later, Function.comp_def]

/-- An outcome with all its lines further down. -/
def outcomeLater (k : Nat) (outcome : Except Error (List Line)) : Except Error (List Line) :=
  (List.map (Line.later k) <$> outcome).mapError (Error.later k)

/-- Only lines that are read are read further down. -/
theorem outcomeLater_eq_ok_iff {k : Nat} {outcome : Except Error (List Line)}
    {there : List Line} :
    outcomeLater k outcome = .ok there ↔
      ∃ here, outcome = .ok here ∧ here.map (Line.later k) = there := by
  cases outcome with
  | error error => simp [outcomeLater]
  | ok here => simp [outcomeLater]

/-- Lines further down lose the same comments. -/
theorem stripComments_later (k line : Nat) (region : Region) (text : List Char) :
    stripComments (line + k) (region.later k) text =
      ((stripComments line region text).1, (stripComments line region text).2.later k) := by
  -- the line matters only where a block comment opens
  induction region, text using stripComments_induction line with
  | atEnd region => rfl
  | close openedOn rest ih =>
    simp only [Region.later] at ih ⊢
    rw [stripComments_close, ih]
    rfl
  | inBlock openedOn c rest hclose ih =>
    simp only [Region.later] at ih ⊢
    rw [stripComments_inBlock hclose, stripComments_inBlock hclose, ih]
  | escape mark c rest ih =>
    simp only [Region.later] at ih ⊢
    rw [stripComments_escape, ih]
    rfl
  | inLiteral mark c rest hescape ih =>
    have hnext : (if c = mark then Region.code else .literal mark).later k =
        if c = mark then .code else .literal mark := by split <;> rfl
    rw [hnext] at ih
    simp only [Region.later]
    rw [stripComments_inLiteral hescape, stripComments_inLiteral hescape, ih]
    rfl
  | lineComment rest => rfl
  | blockComment rest ih => exact ih
  | inCode c rest hopen ih =>
    have hnext : (if isQuote c then Region.literal c else .code).later k =
        if isQuote c then .literal c else .code := by split <;> rfl
    rw [hnext] at ih
    simp only [Region.later]
    rw [stripComments_inCode hopen, stripComments_inCode hopen, ih]
    rfl

/-- Code further down says the same. -/
theorem readCode_later (k number : Nat) (kept : List Char) :
    readCode (number + k) kept = outcomeLater k (readCode number kept) := by
  unfold readCode
  dsimp only
  split
  · rfl
  · cases readDirective (trim kept) with
    | error fault => rfl
    | ok directive => cases directive <;> rfl

/-- A line further down says the same and leads to the same region. -/
theorem readLine_later (k number : Nat) (region : Region) (raw : List Char) :
    readLine (number + k) (region.later k) raw =
      ((fun result => (result.1.map (Line.later k), result.2.later k)) <$>
        readLine number region raw).mapError (Error.later k) := by
  have hcode : region.later k = .code ↔ region = .code := by
    cases region <;> simp [Region.later]
  unfold readLine
  simp only [hcode, stripComments_later]
  split
  · rfl
  · cases (stripComments number region raw).2 with
    | literal mark => rfl
    | code =>
      simp only [Region.later, readCode_later]
      cases readCode number (stripComments number region raw).1 <;> rfl
    | block openedOn =>
      simp only [Region.later, readCode_later]
      cases readCode number (stripComments number region raw).1 <;> rfl

/-- Lines further down say the same. -/
theorem readLines_later (k number : Nat) (region : Region) (raws : List (List Char)) :
    readLines (number + k) (region.later k) raws =
      outcomeLater k (readLines number region raws) := by
  induction raws generalizing number region with
  | nil => cases region <;> rfl
  | cons raw rest ih =>
    rw [readLines, readLines, readLine_later]
    cases readLine number region raw with
    | error error => rfl
    | ok result =>
      obtain ⟨here, after⟩ := result
      have hnext : number + k + 1 = number + 1 + k := by omega
      simp only [map_ok, mapError_ok, ok_bind, hnext, ih]
      cases readLines (number + 1) after rest with
      | error error => rfl
      | ok others => simp [outcomeLater]

end LayeredFlags.LayerText
