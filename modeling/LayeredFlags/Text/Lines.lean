/-!
# Lines and Columns of a Text

A line ends at a line feed, or at a carriage return and a line feed. What follows the last
line feed is a line of its own unless it is empty. A carriage return that no line feed
follows belongs to its line.

The main statements say that the lines of two joined texts are the lines of both, if the
first one is empty or ends with a line feed (`lines_append`), and that a line feed ends the
line in front of it (`lines_append_cons`).

Text set in a column is filled up with spaces to the column's width, counted in characters.
Text that is wider than its column is left as it is.
-/

namespace LayeredFlags.Text

/-- Put a character in front of the first of some lines, or make a line of it. -/
def consHead (c : Char) : List (List Char) → List (List Char)
  | [] => [[c]]
  | line :: lines => (c :: line) :: lines

/-- The lines of a text, without their ends. -/
def lines : List Char → List (List Char)
  | [] => []
  | '\r' :: '\n' :: rest => [] :: lines rest
  | '\n' :: rest => [] :: lines rest
  | c :: rest => consHead c (lines rest)

/-- The text is empty or its last character is a line feed. -/
def EndsLine (text : List Char) : Prop :=
  text = [] ∨ text.getLast? = some '\n'

instance (text : List Char) : Decidable (EndsLine text) := by
  unfold EndsLine
  infer_instance

/-- Only the empty text has no lines. -/
@[simp]
theorem lines_eq_nil_iff {text : List Char} : lines text = [] ↔ text = [] := by
  fun_cases lines text with
  | case4 c rest => cases lines rest <;> simp [consHead]
  | _ => simp

/-- A character goes in front of the first line of all. -/
theorem consHead_append (c : Char) {first : List (List Char)} (h : first ≠ [])
    (second : List (List Char)) :
    consHead c (first ++ second) = consHead c first ++ second := by
  cases first with
  | nil => exact absurd rfl h
  | cons line lines => rfl

/-- What follows the first character of a text ends its line if the text does. -/
theorem EndsLine.of_cons {c : Char} {rest : List Char} (h : EndsLine (c :: rest)) :
    EndsLine rest := by
  cases rest with
  | nil => exact .inl rfl
  | cons d rest => exact .inr (by simpa [EndsLine] using h)

/-- The lines of two joined texts are the lines of both, if the first one ends its line. -/
theorem lines_append {first : List Char} (h : EndsLine first) (second : List Char) :
    lines (first ++ second) = lines first ++ lines second := by
  fun_induction lines first with
  | case1 => rfl
  | case2 rest ih => simp [lines, ih h.of_cons.of_cons]
  | case3 rest ih => simp [lines, ih h.of_cons]
  | case4 c rest hcr hlf ih =>
    obtain ⟨d, tail, rfl⟩ : ∃ d tail, rest = d :: tail := by
      cases rest with
      | nil => exact absurd h (by simpa [EndsLine] using hlf)
      | cons d tail => exact ⟨d, tail, rfl⟩
    rw [← consHead_append c (by simp), ← ih h.of_cons, List.cons_append]
    conv => lhs; unfold lines
    split <;> simp_all

/-- A text that ends its line has one line for every line feed. -/
theorem length_lines {text : List Char} (h : EndsLine text) :
    (lines text).length = text.count '\n' := by
  fun_induction lines text with
  | case1 => rfl
  | case2 rest ih =>
    rw [List.length_cons, ih h.of_cons.of_cons, List.count_cons_of_ne (by decide),
      List.count_cons_self]
  | case3 rest ih => rw [List.length_cons, ih h.of_cons, List.count_cons_self]
  | case4 c rest hcr hlf ih =>
    have hc : c ≠ '\n' := hlf
    rw [List.count_cons_of_ne hc, ← ih h.of_cons]
    cases hrest : lines rest with
    | nil =>
      -- a text of one character ends its line only if it is the line feed
      rw [lines_eq_nil_iff.1 hrest] at h
      exact absurd (by simpa [EndsLine] using h) hc
    | cons first others => rfl

/-- The lines of many joined texts are the lines of all, if each of them ends its line. -/
theorem lines_flatMap_append {α : Type} {items : List α} {text : α → List Char}
    (h : ∀ item ∈ items, EndsLine (text item)) (rest : List Char) :
    lines (items.flatMap text ++ rest) =
      items.flatMap (fun item => lines (text item)) ++ lines rest := by
  induction items with
  | nil => rfl
  | cons item others ih =>
    rw [List.flatMap_cons, List.flatMap_cons, List.append_assoc,
      lines_append (h item List.mem_cons_self),
      ih fun other hmem => h other (List.mem_cons_of_mem item hmem), List.append_assoc]

/-- A text with a line feed at its end ends its line. -/
theorem endsLine_concat (text : List Char) : EndsLine (text ++ ['\n']) :=
  .inr List.getLast?_concat

/-- A character that ends no line goes in front of the first line of the rest. -/
theorem lines_cons {c : Char} {rest : List Char} (hlf : c ≠ '\n')
    (hcr : c = '\r' → rest.head? ≠ some '\n') : lines (c :: rest) = consHead c (lines rest) := by
  rw [lines]
  · rintro tail rfl rfl
    exact hcr rfl rfl
  · rintro rfl
    exact hlf rfl

/-- Characters that end no line go in front of the first line. -/
theorem lines_append_of_eq_cons {before text first : List Char} {others : List (List Char)}
    (hbefore : ∀ c ∈ before, c ≠ '\r' ∧ c ≠ '\n') (h : lines text = first :: others) :
    lines (before ++ text) = (before ++ first) :: others := by
  induction before with
  | nil => exact h
  | cons c before ih =>
    have hc := hbefore c (by simp)
    rw [List.cons_append, lines_cons hc.2 fun hcr => absurd hcr hc.1,
      ih fun d hd => hbefore d (by simp [hd])]
    rfl

/-- A line feed ends the line in front of it. -/
theorem lines_append_cons {line : List Char} (hlf : '\n' ∉ line)
    (hcr : line.getLast? ≠ some '\r') (rest : List Char) :
    lines (line ++ '\n' :: rest) = line :: lines rest := by
  induction line with
  | nil => rfl
  | cons c line ih =>
    obtain ⟨hc, hline⟩ := not_or.1 (fun h => hlf (List.mem_cons.2 h))
    rw [List.cons_append, lines_cons (Ne.symm hc)]
    · rw [ih hline fun hlast => hcr (by simp [List.getLast?_cons, hlast])]
      rfl
    · rintro rfl
      cases line with
      | nil => exact absurd rfl hcr
      | cons d line => simpa using fun h => hline (by simp [h])

/-- A line feed after a text adds no line, if the text does not end in a character that ends
lines. -/
theorem lines_concat {text : List Char} (hne : text ≠ [])
    (h : ∀ c, text.getLast? = some c → c ≠ '\r' ∧ c ≠ '\n') :
    lines (text ++ ['\n']) = lines text := by
  fun_induction lines text with
  | case1 => exact absurd rfl hne
  | case2 rest ih =>
    cases rest with
    | nil => exact absurd rfl (h '\n' rfl).2
    | cons d tail => simpa [lines] using ih (by simp) (by simpa using h)
  | case3 rest ih =>
    cases rest with
    | nil => exact absurd rfl (h '\n' rfl).2
    | cons d tail => simpa [lines] using ih (by simp) (by simpa using h)
  | case4 c rest hcr hlf ih =>
    cases rest with
    | nil =>
      have hlast : c ≠ '\r' := (h c rfl).1
      simp [lines_cons hlf fun hc => absurd hc hlast, lines, consHead]
    | cons d tail =>
      have hd : c = '\r' → d ≠ '\n' := by
        rintro rfl rfl
        exact hcr tail rfl rfl
      rw [List.cons_append, lines_cons hlf (by simpa using hd), ih (by simp) (by simpa using h)]

/-- The first line starts as the text does, unless it is empty. -/
theorem head?_of_lines_eq_cons {text first : List Char} {others : List (List Char)} {c : Char}
    (h : lines text = first :: others) (hc : first.head? = some c) : text.head? = some c := by
  fun_cases lines text with
  | case1 => simp [lines] at h
  | case2 rest =>
    obtain rfl : [] = first := by simpa [lines] using (List.cons.inj h).1
    cases hc
  | case3 rest =>
    obtain rfl : [] = first := by simpa [lines] using (List.cons.inj h).1
    cases hc
  | case4 d rest hcr hlf =>
    rw [lines] at h
    · cases hrest : lines rest <;> rw [hrest, consHead] at h <;> cases h <;> exact hc
    · exact hcr
    · exact hlf

/-- A text without line feeds is one line. -/
theorem lines_eq_singleton {line : List Char} (hne : line ≠ []) (hlf : '\n' ∉ line) :
    lines line = [line] := by
  induction line with
  | nil => exact absurd rfl hne
  | cons c rest ih =>
    obtain ⟨hc, hrest⟩ := not_or.1 (fun h => hlf (List.mem_cons.2 h))
    have hhead : rest.head? ≠ some '\n' := fun h => hrest (List.mem_of_head? h)
    rw [lines_cons (Ne.symm hc) fun _ => hhead]
    cases rest with
    | nil => rfl
    | cons d tail => rw [ih (by simp) hrest, consHead]

/-- A text without line feeds goes behind the last line of what stands before it, or makes a line
of its own if that one is ended. -/
theorem exists_lines_append {suffix : List Char} (hne : suffix ≠ []) (hlf : '\n' ∉ suffix)
    (text : List Char) :
    ∃ others last, lines (text ++ suffix) = others ++ [last ++ suffix] ∧
      (lines text = others ∧ last = [] ∨ lines text = others ++ [last]) := by
  fun_induction lines text with
  | case1 => exact ⟨[], [], lines_eq_singleton hne hlf, .inl ⟨rfl, rfl⟩⟩
  | case2 rest ih =>
    obtain ⟨others, last, h, hbefore⟩ := ih
    exact ⟨[] :: others, last, by simp [lines, h], by simpa using hbefore⟩
  | case3 rest ih =>
    obtain ⟨others, last, h, hbefore⟩ := ih
    exact ⟨[] :: others, last, by simp [lines, h], by simpa using hbefore⟩
  | case4 c rest hcr hc ih =>
    obtain ⟨others, last, h, hbefore⟩ := ih
    have hhead : c = '\r' → (rest ++ suffix).head? ≠ some '\n' := by
      rintro rfl
      cases rest with
      | nil => exact fun hsuffix => hlf (List.mem_of_head? hsuffix)
      | cons d tail =>
        intro hd
        obtain rfl := Option.some.inj hd
        exact hcr tail rfl rfl
    rw [List.cons_append, lines_cons hc hhead, h]
    cases others with
    | nil =>
      refine ⟨[], c :: last, rfl, .inr ?_⟩
      rcases hbefore with ⟨hbefore, rfl⟩ | hbefore <;> rw [hbefore] <;> rfl
    | cons first others =>
      refine ⟨(c :: first) :: others, last, rfl, ?_⟩
      rcases hbefore with ⟨hbefore, rfl⟩ | hbefore <;> rw [hbefore]
      · exact .inl ⟨rfl, rfl⟩
      · exact .inr rfl

/-- No line holds a line feed. -/
theorem not_mem_of_mem_lines {text line : List Char} (h : line ∈ lines text) : '\n' ∉ line := by
  fun_induction lines text generalizing line with
  | case1 => simp at h
  | case2 rest ih =>
    rcases List.mem_cons.1 h with rfl | hmem
    · exact List.not_mem_nil
    · exact ih hmem
  | case3 rest ih =>
    rcases List.mem_cons.1 h with rfl | hmem
    · exact List.not_mem_nil
    · exact ih hmem
  | case4 c rest hcr hlf ih =>
    have hc : '\n' ≠ c := fun heq => hlf heq.symm
    cases hrest : lines rest with
    | nil =>
      rw [hrest] at h
      obtain rfl := List.mem_singleton.1 h
      simpa using hc
    | cons first others =>
      rw [hrest] at h ih
      rcases List.mem_cons.1 h with rfl | hmem
      · simpa [hc] using ih (List.mem_cons_self)
      · exact ih (List.mem_cons_of_mem first hmem)

/-! ## Columns -/

/-- Fill up with spaces at the end. -/
def padEnd (width : Nat) (text : String) : String :=
  text ++ String.ofList (List.replicate (width - text.length) ' ')

/-- Fill up with spaces in front. -/
def padStart (width : Nat) (text : String) : String :=
  String.ofList (List.replicate (width - text.length) ' ') ++ text

end LayeredFlags.Text
