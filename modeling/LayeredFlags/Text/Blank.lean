/-!
# Blank Characters and Words

The blanks are the characters with the Unicode property `White_Space`. Trimming cuts
them from the ends of a text, and `nextWord` cuts the first word off a text.

The main statements say that trimming cuts blanks only (`exists_trim`) and leaves none at
either end (`trimmed_trim`), and that cutting a word loses nothing but the blanks before it
(`nextWord_append`).
-/

namespace LayeredFlags.Text

/-- The character has the Unicode property `White_Space`. -/
def isBlank (c : Char) : Bool :=
  let n := c.toNat
  (9 ≤ n && n ≤ 13) || n == 0x20 || n == 0x85 || n == 0xA0 || n == 0x1680 ||
    (0x2000 ≤ n && n ≤ 0x200A) || n == 0x2028 || n == 0x2029 || n == 0x202F ||
    n == 0x205F || n == 0x3000

/-- The text without the blanks it starts with. -/
def trimStart (text : List Char) : List Char :=
  text.dropWhile isBlank

/-- The text without the blanks it ends with. -/
def trimEnd (text : List Char) : List Char :=
  (text.reverse.dropWhile isBlank).reverse

/-- The text without the blanks at both of its ends. -/
def trim (text : List Char) : List Char :=
  trimEnd (trimStart text)

/-- The text holds nothing but blanks. -/
def isAllBlank (text : String) : Bool :=
  text.toList.all isBlank

/-- The first word of a text, which is empty if there is none, and what follows it. -/
def nextWord (text : List Char) : List Char × List Char :=
  let start := trimStart text
  (start.takeWhile (!isBlank ·), start.dropWhile (!isBlank ·))

/-- Neither the word nor the rest loses anything but the blanks before the word. -/
theorem nextWord_append (text : List Char) :
    (nextWord text).1 ++ (nextWord text).2 = trimStart text := by
  simp [nextWord]

/-- A word holds no blank. -/
theorem not_isBlank_of_mem_nextWord {text : List Char} {c : Char}
    (h : c ∈ (nextWord text).1) : isBlank c = false := by
  have hall := @List.all_takeWhile Char (!isBlank ·) (trimStart text)
  simpa using List.all_eq_true.1 hall c h

/-- A text that has lost its leading blanks does not start with one. -/
theorem head?_trimStart_not_blank {text : List Char} {c : Char}
    (h : (trimStart text).head? = some c) : isBlank c = false := by
  have := List.head?_dropWhile_not isBlank text
  simp only [trimStart] at h
  rw [h] at this
  exact this

/-- The text neither starts nor ends with a blank. -/
def Trimmed (text : List Char) : Prop :=
  (∀ c, text.head? = some c → isBlank c = false) ∧
    ∀ c, text.getLast? = some c → isBlank c = false

/-- Blanks in front of a text are cut off. -/
theorem trimStart_append {before : List Char} (h : ∀ c ∈ before, isBlank c = true)
    (text : List Char) : trimStart (before ++ text) = trimStart text := by
  simp only [trimStart]
  exact List.dropWhile_append_of_pos h

/-- A text that does not start with a blank keeps its start. -/
theorem trimStart_eq_self {text : List Char}
    (h : ∀ c, text.head? = some c → isBlank c = false) : trimStart text = text := by
  cases text with
  | nil => rfl
  | cons c rest => simp [trimStart, h c rfl]

/-- Blanks after a text are cut off. -/
theorem trimEnd_append {after : List Char} (h : ∀ c ∈ after, isBlank c = true)
    (text : List Char) : trimEnd (text ++ after) = trimEnd text := by
  simp only [trimEnd, List.reverse_append]
  rw [List.dropWhile_append_of_pos fun c hc => h c (List.mem_reverse.1 hc)]

/-- A text that does not end with a blank keeps its end. -/
theorem trimEnd_eq_self {text : List Char}
    (h : ∀ c, text.getLast? = some c → isBlank c = false) : trimEnd text = text := by
  have hreverse : text.reverse.dropWhile isBlank = text.reverse :=
    trimStart_eq_self (by simpa using h)
  rw [trimEnd, hreverse, List.reverse_reverse]

/-- A text that ends in no blank is left in front of what is left of another text. -/
theorem trimEnd_append_left {before : List Char}
    (h : ∀ c, before.getLast? = some c → isBlank c = false) (text : List Char) :
    trimEnd (before ++ text) = before ++ trimEnd text := by
  have hbefore : before.reverse.dropWhile isBlank = before.reverse :=
    trimStart_eq_self (by simpa using h)
  rw [trimEnd, List.reverse_append, List.dropWhile_append, hbefore]
  split
  · next hempty =>
    rw [trimEnd, List.isEmpty_iff.1 hempty]
    simp
  · rw [List.reverse_append, List.reverse_reverse, trimEnd]

/-- A text is blanks and then what is left without them. -/
theorem exists_trimStart (text : List Char) :
    ∃ before, text = before ++ trimStart text ∧ ∀ c ∈ before, isBlank c = true :=
  ⟨text.takeWhile isBlank, List.takeWhile_append_dropWhile.symm,
    List.all_eq_true.1 List.all_takeWhile⟩

/-- A text is what is left without the blanks it ends with, and then these blanks. -/
theorem exists_trimEnd (text : List Char) :
    ∃ after, text = trimEnd text ++ after ∧ ∀ c ∈ after, isBlank c = true := by
  refine ⟨(text.reverse.takeWhile isBlank).reverse, ?_, fun c hc => ?_⟩
  · rw [trimEnd, ← List.reverse_append, List.takeWhile_append_dropWhile, List.reverse_reverse]
  · exact List.all_eq_true.1 List.all_takeWhile c (List.mem_reverse.1 hc)

/-- A text is its trimmed form between blanks. -/
theorem exists_trim (text : List Char) :
    ∃ before after, text = before ++ trim text ++ after ∧
      (∀ c ∈ before, isBlank c = true) ∧ ∀ c ∈ after, isBlank c = true := by
  obtain ⟨before, htext, hbefore⟩ := exists_trimStart text
  obtain ⟨after, hstart, hafter⟩ := exists_trimEnd (trimStart text)
  refine ⟨before, after, ?_, hbefore, hafter⟩
  rw [trim, List.append_assoc, ← hstart, ← htext]

/-- A trimmed text neither starts nor ends with a blank. -/
theorem trimmed_trim (text : List Char) : Trimmed (trim text) := by
  have hlast : ∀ c, (trim text).getLast? = some c → isBlank c = false := by
    intro c hc
    simp only [trim, trimEnd, List.getLast?_reverse] at hc
    exact head?_trimStart_not_blank hc
  refine ⟨fun c hc => ?_, hlast⟩
  -- what is cut off the end leaves the start alone, if it leaves anything
  obtain ⟨after, hafter⟩ : trim text <+: trimStart text := by
    rw [trim, trimEnd, ← List.reverse_suffix, List.reverse_reverse]
    exact List.dropWhile_suffix isBlank
  have hhead : (trimStart text).head? = some c := by
    rw [← hafter, List.head?_append, hc, Option.some_or]
  exact head?_trimStart_not_blank hhead

/-- A trimmed text is left as it is. -/
theorem trim_eq_self {text : List Char} (h : Trimmed text) : trim text = text := by
  rw [trim, trimStart_eq_self h.1, trimEnd_eq_self h.2]

/-- A text without its leading blanks is empty exactly when it holds blanks only. -/
theorem trimStart_eq_nil_iff {text : List Char} :
    trimStart text = [] ↔ ∀ c ∈ text, isBlank c = true := by
  induction text with
  | nil => simp [trimStart]
  | cons c rest ih => by_cases hc : isBlank c = true <;> simp_all [trimStart]

/-- Nothing is left of a text exactly when it holds blanks only. -/
theorem trim_eq_nil_iff {text : List Char} :
    trim text = [] ↔ ∀ c ∈ text, isBlank c = true := by
  constructor
  · intro h
    obtain ⟨before, after, htext, hbefore, hafter⟩ := exists_trim text
    rw [htext, h, List.append_nil]
    simp only [List.mem_append]
    rintro c (hc | hc)
    · exact hbefore c hc
    · exact hafter c hc
  · intro h
    rw [trim, trimStart_eq_nil_iff.2 h]
    rfl

/-- Blanks in front of a text do not change its trimmed form. -/
theorem trim_append_left {before : List Char} (h : ∀ c ∈ before, isBlank c = true)
    (text : List Char) : trim (before ++ text) = trim text := by
  rw [trim, trimStart_append h, trim]

/-- Blanks after a text do not change its trimmed form. -/
theorem trim_append_right {after : List Char} (h : ∀ c ∈ after, isBlank c = true)
    (text : List Char) : trim (text ++ after) = trim text := by
  by_cases hblank : trimStart text = []
  · have htext := trimStart_eq_nil_iff.1 hblank
    rw [trim_eq_nil_iff.2 htext, trim_append_left htext, trim_eq_nil_iff.2 h]
  · have hstart : trimStart (text ++ after) = trimStart text ++ after := by
      rw [trimStart, List.dropWhile_append, if_neg]
      · rfl
      · simpa [trimStart] using hblank
    rw [trim, hstart, trimEnd_append h, trim]

/-- Nothing more is cut off a text that has lost the blanks at its end. -/
theorem trim_trimEnd (text : List Char) : trim (trimEnd text) = trim text := by
  obtain ⟨after, htext, hafter⟩ := exists_trimEnd text
  have hsame := trim_append_right hafter (trimEnd text)
  rw [← htext] at hsame
  exact hsame.symm

/-- A text is blanks, its first word and what follows it. -/
theorem exists_nextWord (text : List Char) :
    ∃ before, text = before ++ (nextWord text).1 ++ (nextWord text).2 ∧
      ∀ c ∈ before, isBlank c = true := by
  obtain ⟨before, htext, hbefore⟩ := exists_trimStart text
  refine ⟨before, ?_, hbefore⟩
  rw [List.append_assoc, nextWord_append, ← htext]

/-- The first word of a text is the run without blanks that a blank or the end follows. -/
theorem nextWord_append_append {before word rest : List Char}
    (hbefore : ∀ c ∈ before, isBlank c = true) (hne : word ≠ [])
    (hword : ∀ c ∈ word, isBlank c = false)
    (hrest : ∀ c, rest.head? = some c → isBlank c = true) :
    nextWord (before ++ word ++ rest) = (word, rest) := by
  have hstart : trimStart (before ++ word ++ rest) = word ++ rest := by
    rw [List.append_assoc, trimStart_append hbefore]
    refine trimStart_eq_self fun c hc => ?_
    obtain ⟨a, tail, rfl⟩ := List.exists_cons_of_ne_nil hne
    obtain rfl : a = c := by simpa using hc
    exact hword a (by simp)
  have hkeep : ∀ c ∈ word, (!isBlank c) = true := by simpa using hword
  simp only [nextWord, hstart, List.takeWhile_append_of_pos hkeep,
    List.dropWhile_append_of_pos hkeep]
  cases rest with
  | nil => simp
  | cons c rest => simp [hrest c rfl]

end LayeredFlags.Text
