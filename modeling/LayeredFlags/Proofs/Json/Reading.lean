import LayeredFlags.Json.Grammar
import LayeredFlags.Json.Reader
import Mathlib.Tactic.Common
/-!
# Reading the Texts of the Grammar

Every text of a value is read as that value. The reader takes what it can get, so that each of
its functions goes on to a character that cannot belong to what it reads. What may follow a number
is therefore a condition on the rest of the text, and every mark that closes or separates values
meets it. Nested values are read by the same function with a smaller bound on the nesting, for
which a text has always enough characters.

## Main results

* `Reader.stringEnd_append`, `Reader.number_append`: strings and numbers, in all their spellings;
* `Reader.readsUpTo_value`: values, nested as deep as their texts are long;
* `parse?_of_isText`: a text of a value is read as that value;
* `Grammar.IsText.unique`: so it is the text of no other value;
* `Denotes`: these three facts about a text and a value in one.
-/

namespace LayeredFlags.Json

namespace Reader

open Grammar Text

/-! ## Blanks -/

section Blanks

variable {blanks : List Char}

theorem skipBlanks_cons {c : Char} (h : ¬ IsBlank c) (rest : List Char) :
    skipBlanks (c :: rest) = c :: rest := by
  simp only [IsBlank, not_or] at h
  simp [skipBlanks, h]

theorem skipBlanks_append (h : Blanks blanks) (rest : List Char) :
    skipBlanks (blanks ++ rest) = skipBlanks rest := by
  refine List.dropWhile_append_of_pos fun c hc => ?_
  rcases h c hc with rfl | rfl | rfl | rfl <;> rfl

theorem skipBlanks_append_cons (h : Blanks blanks) {c : Char} (hc : ¬ IsBlank c)
    (rest : List Char) : skipBlanks (blanks ++ c :: rest) = c :: rest := by
  rw [skipBlanks_append h, skipBlanks_cons hc]

theorem length_skipBlanks_le (text : List Char) : (skipBlanks text).length ≤ text.length :=
  (List.dropWhile_suffix _).length_le

end Blanks

/-! ## Strings -/

/-- A code unit is four digits, one by one. -/
theorem exists_of_codeUnit {digits : List Char} {number : Nat} (h : CodeUnit digits number) :
    ∃ a b c d, digits = [a, b, c, d] ∧ numberFrom? 16 0 [a, b, c, d] = some number := by
  obtain ⟨hlength, hnumber⟩ := h
  match digits, hlength with
  | [a, b, c, d], _ => exact ⟨a, b, c, d, rfl, hnumber⟩

/-- The letter of a short escape stands for its character. -/
theorem escaped?_of_mem {letter c : Char} (h : (letter, c) ∈ shortEscapes) :
    letter ≠ 'u' ∧ escaped? letter = some c := by
  simp only [shortEscapes, List.mem_cons, Prod.mk.injEq, List.not_mem_nil, or_false] at h
  rcases h with ⟨rfl, rfl⟩ | ⟨rfl, rfl⟩ | ⟨rfl, rfl⟩ | ⟨rfl, rfl⟩ | ⟨rfl, rfl⟩ | ⟨rfl, rfl⟩ |
    ⟨rfl, rfl⟩ | ⟨rfl, rfl⟩ <;> exact ⟨by decide, rfl⟩

/-- The code point of a character is read as that character. -/
theorem scalar?_of_toNat {digits : List Char} {c : Char}
    (h : numberFrom? 16 0 digits = some c.toNat) : scalar? digits = some c := by
  have hvalid : c.toNat < 0xD800 ∨ 0xDFFF < c.toNat ∧ c.toNat < 0x110000 := c.valid
  simp only [scalar?, h, if_pos hvalid, Char.ofNat_toNat]

/-- The first half of a surrogate pair is no character. -/
theorem scalar?_of_high {digits : List Char} {m : Nat}
    (h : numberFrom? 16 0 digits = some (0xD800 + m)) (hm : m < 0x400) : scalar? digits = none := by
  have hinvalid : ¬ (0xD800 + m < 0xD800 ∨ 0xDFFF < 0xD800 + m ∧ 0xD800 + m < 0x110000) := by
    omega
  simp only [scalar?, h, if_neg hinvalid]

/-- Both halves of a surrogate pair are read as one character. -/
theorem surrogates?_of_pair {high low : List Char} {c : Char} {m n : Nat}
    (hhigh : numberFrom? 16 0 high = some (0xD800 + m))
    (hlow : numberFrom? 16 0 low = some (0xDC00 + n)) (hm : m < 0x400) (hn : n < 0x400)
    (hc : c.toNat = 0x10000 + 0x400 * m + n) : surrogates? high low = some c := by
  have hpair : 0xD800 ≤ 0xD800 + m ∧ 0xD800 + m < 0xDC00 ∧ 0xDC00 ≤ 0xDC00 + n ∧
      0xDC00 + n < 0xE000 := by
    omega
  have hcode : 0x10000 + 0x400 * (0xD800 + m - 0xD800) + (0xDC00 + n - 0xDC00) = c.toNat := by
    omega
  simp only [surrogates?, hhigh, hlow, if_pos hpair, hcode, Char.ofNat_toNat]

/-- A character of a string is read in each of its spellings. -/
theorem stringEnd_character {spelled : List Char} {c : Char} (h : Character spelled c)
    (rest : List Char) : stringEnd (spelled ++ rest) = pushChar c (stringEnd rest) := by
  cases h with
  | plain hcontrol hquote hbackslash =>
    -- the last equation, which is for what no escape and no quote starts
    have hread := stringEnd.eq_6 c rest hquote (fun _ _ _ _ _ h _ => hbackslash h)
      fun _ _ h _ => hbackslash h
    rw [List.singleton_append, hread, if_neg (Nat.not_lt.2 hcontrol)]
  | @short letter _ h =>
    obtain ⟨hletter, hescaped⟩ := escaped?_of_mem h
    have hread := stringEnd.eq_5 letter rest fun _ _ _ _ _ h _ => hletter h
    rw [List.cons_append, List.singleton_append, hread, hescaped]
    rfl
  | unit h =>
    -- one code unit is tried first, so that nothing depends on what follows it
    obtain ⟨a, b, c', d, rfl, hnumber⟩ := exists_of_codeUnit h
    simp only [List.cons_append, List.nil_append]
    rw [stringEnd.eq_def]
    simp only [scalar?_of_toNat hnumber]
  | pair hhigh hlow hm hn hc =>
    obtain ⟨a, b, c', d, rfl, hfirst⟩ := exists_of_codeUnit hhigh
    obtain ⟨e, f, g, h, rfl, hsecond⟩ := exists_of_codeUnit hlow
    simp only [List.cons_append, List.nil_append]
    rw [stringEnd.eq_3, scalar?_of_high hfirst hm, surrogates?_of_pair hfirst hsecond hm hn hc]
    rfl

/-- The characters of a string are read up to the quote behind them. -/
theorem stringEnd_append {text chars : List Char} (h : Characters text chars)
    (rest : List Char) : stringEnd (text ++ '\x22' :: rest) = some (chars, rest) := by
  induction h with
  | nil => rfl
  | cons hhead _ ih =>
    rw [List.append_assoc, stringEnd_character hhead, ih]
    rfl

/-- A string is read as its characters. -/
theorem stringText_append {text : List Char} {read : String} (h : Characters text read.toList)
    (rest : List Char) :
    stringText ('\x22' :: (text ++ '\x22' :: rest)) = some (read, rest) := by
  simp only [stringText, stringEnd_append h, Option.map_some, String.ofList_toList]

/-! ## Numbers -/

/-- No digit, point or exponent starts the text, so that no number goes on into it. -/
def EndsNumber (rest : List Char) : Prop :=
  ∀ c ∈ rest.head?, c.isDigit = false ∧ c ≠ '.' ∧ c ≠ 'e' ∧ c ≠ 'E'

/-- No digit starts the text. -/
def EndsDigits (rest : List Char) : Prop :=
  ∀ c ∈ rest.head?, c.isDigit = false

theorem EndsNumber.endsDigits {rest : List Char} (h : EndsNumber rest) : EndsDigits rest :=
  fun c hc => (h c hc).1

section Numbers

variable {text rest : List Char}

/-- Digits are read up to a character that is none. -/
theorem someDigits_append (h : Digits text) (hrest : EndsDigits rest) :
    someDigits (text ++ rest) = some (text, rest) := by
  obtain ⟨hne, hdigits⟩ := h
  have htake : rest.takeWhile Char.isDigit = [] := by
    cases rest with
    | nil => rfl
    | cons c rest => simp [hrest c rfl]
  have hdrop : rest.dropWhile Char.isDigit = rest := by
    cases rest with
    | nil => rfl
    | cons c rest => simp [hrest c rfl]
  simp only [someDigits]
  rw [List.takeWhile_append_of_pos hdigits, List.dropWhile_append_of_pos hdigits, htake, hdrop,
    List.append_nil, if_neg (by simpa using hne)]

theorem wholePart_append (h : Whole text) (hrest : EndsDigits rest) :
    wholePart (text ++ rest) = some (text, rest) := by
  cases h with
  | zero => rfl
  | digits h hhead =>
    -- a zero in front would have been read alone
    have hskip : wholePart (text ++ rest) = someDigits (text ++ rest) := by
      obtain ⟨c, tail, rfl⟩ := List.exists_cons_of_ne_nil h.1
      refine wholePart.eq_2 _ fun more heq => hhead ?_
      rw [List.cons_append, List.cons.injEq] at heq
      rw [heq.1, List.head?_cons]
    rw [hskip, someDigits_append h hrest]

theorem fractionPart_append {fraction : Option (List Char)} (h : Fraction text fraction)
    (hrest : EndsDigits rest) (hpoint : rest.head? ≠ some '.') :
    fractionPart (text ++ rest) = some (fraction, rest) := by
  cases h with
  | absent =>
    refine fractionPart.eq_2 _ fun more heq => hpoint ?_
    rw [List.nil_append] at heq
    rw [heq, List.head?_cons]
  | present h =>
    simp only [List.cons_append, fractionPart, someDigits_append h hrest, Option.map_some]

/-- Digits start with no sign. -/
theorem exponentSign_append (h : Digits text) (rest : List Char) :
    exponentSign (text ++ rest) = (false, text ++ rest) := by
  obtain ⟨hne, hdigits⟩ := h
  obtain ⟨c, tail, rfl⟩ := List.exists_cons_of_ne_nil hne
  have hdigit := hdigits c List.mem_cons_self
  refine exponentSign.eq_3 _ (fun _ heq => ?_) fun _ heq => ?_
  all_goals
    rw [List.cons_append, List.cons.injEq] at heq
    rw [heq.1] at hdigit
    exact absurd hdigit (by decide)

theorem exponentPart_append {exponent : Option Int} (h : Exponent text exponent)
    (hrest : EndsNumber rest) : exponentPart (text ++ rest) = some (exponent, rest) := by
  cases h with
  | absent =>
    cases rest with
    | nil => rfl
    | cons c rest =>
      obtain ⟨-, -, hlower, hupper⟩ := hrest c rfl
      simp [exponentPart, hlower, hupper]
  | unsigned hmark h hnumber =>
    simp [exponentPart, hmark, exponentSign_append h, someDigits_append h hrest.endsDigits, hnumber]
  | plus hmark h hnumber =>
    simp [exponentPart, hmark, exponentSign, someDigits_append h hrest.endsDigits, hnumber]
  | minus hmark h hnumber =>
    simp [exponentPart, hmark, exponentSign, someDigits_append h hrest.endsDigits, hnumber]

/-- An exponent goes on no digits and is no fraction. -/
theorem endsDigits_exponent {exponent : Option Int} (h : Exponent text exponent)
    (hrest : EndsNumber rest) :
    EndsDigits (text ++ rest) ∧ (text ++ rest).head? ≠ some '.' := by
  have hmarked : ∀ {mark : Char} {more : List Char}, mark = 'e' ∨ mark = 'E' →
      EndsDigits (mark :: more) ∧ (mark :: more).head? ≠ some '.' := by
    rintro mark more (rfl | rfl)
    · exact ⟨fun c hc => by cases hc; rfl, by simp⟩
    · exact ⟨fun c hc => by cases hc; rfl, by simp⟩
  cases h with
  | absent => exact ⟨hrest.endsDigits, fun h => (hrest '.' h).2.1 rfl⟩
  | unsigned hmark _ _ => exact hmarked hmark
  | plus hmark _ _ => exact hmarked hmark
  | minus hmark _ _ => exact hmarked hmark

/-- A fraction and an exponent go on no digits. -/
theorem endsDigits_fraction {fractionText exponentText : List Char}
    {fraction : Option (List Char)} {exponent : Option Int}
    (hfraction : Fraction fractionText fraction) (hexponent : Exponent exponentText exponent)
    (hrest : EndsNumber rest) : EndsDigits (fractionText ++ (exponentText ++ rest)) := by
  cases hfraction with
  | absent => exact (endsDigits_exponent hexponent hrest).1
  | present h => exact fun c hc => by cases hc; rfl

/-- A number is read from after its sign. -/
theorem numberAfter_append (negative : Bool) {whole fractionText exponentText : List Char}
    {fraction : Option (List Char)} {exponent : Option Int} {magnitude : Nat}
    (hwhole : Whole whole) (hfraction : Fraction fractionText fraction)
    (hexponent : Exponent exponentText exponent)
    (hmagnitude : numberFrom? 10 0 (whole ++ fraction.getD []) = some magnitude)
    (hrest : EndsNumber rest) :
    numberAfter negative (whole ++ (fractionText ++ (exponentText ++ rest))) =
      some (numberOf negative magnitude fraction exponent, rest) := by
  obtain ⟨hdigits, hpoint⟩ := endsDigits_exponent hexponent hrest
  have hwhole' := wholePart_append hwhole (endsDigits_fraction hfraction hexponent hrest)
  have hfraction' := fractionPart_append hfraction hdigits hpoint
  have hexponent' := exponentPart_append hexponent hrest
  have hcondition : (fraction.isNone && exponent.isNone && !(negative && magnitude == 0)) = true ↔
      fraction = none ∧ exponent = none ∧ ¬(negative = true ∧ magnitude = 0) := by
    cases negative <;> simp [and_assoc]
  simp only [numberAfter, hwhole', hfraction', hexponent', hmagnitude, Option.bind_eq_bind,
    Option.bind_some, hcondition, numberOf, signed]
  split <;> rfl

/-- A number starts with a digit once its sign is off. -/
theorem exists_digit_of_whole (h : Whole text) :
    ∃ c tail, text = c :: tail ∧ c.isDigit = true := by
  cases h with
  | zero => exact ⟨'0', [], rfl, rfl⟩
  | digits h _ =>
    obtain ⟨c, tail, rfl⟩ := List.exists_cons_of_ne_nil h.1
    exact ⟨c, tail, rfl, h.2 c List.mem_cons_self⟩

theorem number_of_digit {c : Char} (h : c.isDigit = true) (rest : List Char) :
    number (c :: rest) = numberAfter false (c :: rest) := by
  refine number.eq_2 _ fun _ heq => ?_
  rw [List.cons.injEq] at heq
  rw [heq.1] at h
  exact absurd h (by decide)

/-- A number is read in each of its spellings. -/
theorem number_append {json : Json} (h : Number text json) (hrest : EndsNumber rest) :
    number (text ++ rest) = some (json, rest) := by
  cases h with
  | mk negative hwhole hfraction hexponent hmagnitude =>
    have hread := numberAfter_append negative hwhole hfraction hexponent hmagnitude hrest
    simp only [List.append_assoc]
    cases negative with
    | true => exact hread
    | false =>
      obtain ⟨c, tail, rfl, hdigit⟩ := exists_digit_of_whole hwhole
      exact (number_of_digit hdigit _).trans hread

end Numbers

/-! ## Values -/

section Values

variable {text rest : List Char}

/-- Nothing that stands in a text between values goes on a number. -/
theorem endsNumber_append_cons {blanks : List Char} (h : Blanks blanks) {mark : Char}
    (hmark : mark = ',' ∨ mark = ']' ∨ mark = '}') (rest : List Char) :
    EndsNumber (blanks ++ mark :: rest) := by
  intro c hc
  cases blanks with
  | nil =>
    cases hc
    rcases hmark with rfl | rfl | rfl <;> decide
  | cons blank blanks =>
    rw [List.cons_append, List.head?_cons, Option.mem_some_iff] at hc
    subst hc
    rcases h blank List.mem_cons_self with rfl | rfl | rfl | rfl <;> decide

theorem not_isBlank_of_isDigit {c : Char} (h : c.isDigit = true) : ¬ IsBlank c := by
  rintro (rfl | rfl | rfl | rfl) <;> exact absurd h (by decide)

/-- A number starts with its sign or a digit. -/
theorem exists_start_of_number {json : Json} (h : Number text json) :
    ∃ c tail, text = c :: tail ∧ (c = '-' ∨ c.isDigit = true) := by
  cases h with
  | mk negative hwhole _ _ _ =>
    obtain ⟨c, tail, rfl, hdigit⟩ := exists_digit_of_whole hwhole
    cases negative with
    | true => exact ⟨'-', _, rfl, .inl rfl⟩
    | false => exact ⟨c, _, rfl, .inr hdigit⟩

/-- A value starts with no blank, and with nothing that closes an array. -/
theorem exists_start_of_value {json : Json} (h : Value text json) :
    ∃ c tail, text = c :: tail ∧ ¬ IsBlank c ∧ c ≠ ']' := by
  have hnumber : ∀ {c : Char}, c = '-' ∨ c.isDigit = true → ¬ IsBlank c ∧ c ≠ ']' := by
    rintro c (rfl | hdigit)
    · simp [IsBlank]
    · refine ⟨not_isBlank_of_isDigit hdigit, ?_⟩
      rintro rfl
      exact absurd hdigit (by decide)
  cases h with
  | number h =>
    obtain ⟨c, tail, rfl, hc⟩ := exists_start_of_number h
    exact ⟨c, tail, rfl, hnumber hc⟩
  | _ => exact ⟨_, _, rfl, by simp [IsBlank]⟩

/-- A value that is neither an array nor an object is read on its own. -/
theorem value_eq_simple {c : Char} (hbracket : c ≠ '[') (hbrace : c ≠ '{') (depth : Nat)
    (rest : List Char) : value (depth + 1) (c :: rest) = simple (c :: rest) := by
  refine value.eq_4 _ depth (fun _ heq => hbracket ?_) fun _ heq => hbrace ?_
  all_goals exact (List.cons.injEq _ _ _ _ ▸ heq).1

/-- A number is read by the last equation, because no other value starts like one. -/
theorem simple_number {json : Json} (h : Number text json) (hrest : EndsNumber rest) :
    simple (text ++ rest) = some (json, rest) := by
  rw [← number_append h hrest]
  obtain ⟨c, tail, rfl, hc⟩ := exists_start_of_number h
  have hstart : ∀ {letter : Char}, letter ≠ '-' → letter.isDigit = false → c ≠ letter := by
    rintro letter hminus hletter rfl
    rcases hc with rfl | hc
    · exact hminus rfl
    · rw [hletter] at hc
      cases hc
  refine simple.eq_5 _ (fun _ heq => ?_) (fun _ heq => ?_) (fun _ heq => ?_) fun _ heq => ?_
  all_goals
    rw [List.cons_append, List.cons.injEq] at heq
    exact absurd heq.1 (hstart (by decide) (by decide))

/-- The function reads every text of a value up to a length, whatever follows that goes on no
number. -/
def ReadsUpTo (limit : Nat) (read : Scan Json) : Prop :=
  ∀ {text : List Char} {json : Json} {rest : List Char}, Value text json → text.length ≤ limit →
    EndsNumber rest → read (text ++ rest) = some (json, rest)

theorem skipBlanks_value {before : List Char} {json : Json} (hbefore : Blanks before)
    (h : Value text json) (rest : List Char) :
    skipBlanks (before ++ (text ++ rest)) = text ++ rest := by
  obtain ⟨c, tail, rfl, hblank, -⟩ := exists_start_of_value h
  exact skipBlanks_append_cons hbefore hblank (tail ++ rest)

/-! ### Arrays -/

section Items

variable {limit bound : Nat} {read : Scan Json} {item : Json} {list : List Json}
  {more blanks : List Char}

/-- The last item is read up to the bracket behind it. -/
theorem items_last (hitem : read (skipBlanks text) = some (item, blanks ++ ']' :: rest))
    (hblanks : Blanks blanks) : items read (bound + 1) text = some ([item], rest) := by
  rw [items.eq_2, hitem]
  simp [skipBlanks_append_cons hblanks (c := ']') (by simp [IsBlank])]

/-- Any other item is read up to the comma behind it. -/
theorem items_cons (hitem : read (skipBlanks text) = some (item, blanks ++ ',' :: more))
    (hblanks : Blanks blanks) (hmore : items read bound more = some (list, rest)) :
    items read (bound + 1) text = some (item :: list, rest) := by
  rw [items.eq_2, hitem]
  simp [skipBlanks_append_cons hblanks (c := ',') (by simp [IsBlank]), hmore]

/-- Blanks in front of the items make no difference. -/
theorem items_congr {text' : List Char} (h : skipBlanks text = skipBlanks text') :
    items read bound text = items read bound text' := by
  cases bound with
  | zero => rfl
  | succ bound => rw [items.eq_2, items.eq_2, h]

theorem items_append (hread : ReadsUpTo limit read) (h : Items text list)
    (hlimit : text.length ≤ limit) (hbound : list.length ≤ bound) (rest : List Char) :
    items read bound (text ++ ']' :: rest) = some (list, rest) := by
  induction list generalizing text bound with
  | nil => cases h
  | cons item list ih =>
    obtain ⟨bound, rfl⟩ := Nat.exists_eq_succ_of_ne_zero (Nat.ne_zero_of_lt hbound)
    cases h with
    | last hbefore hitem hafter =>
      simp only [List.length_append] at hlimit
      refine items_last ?_ hafter
      simp only [List.append_assoc, skipBlanks_value hbefore hitem]
      exact hread hitem (by omega) (endsNumber_append_cons hafter (by simp) rest)
    | cons hbefore hitem hafter hrest =>
      simp only [List.length_append, List.length_cons] at hlimit
      -- the others are shorter, and there is one less
      refine items_cons ?_ hafter (ih hrest (by omega) (Nat.le_of_succ_le_succ hbound))
      simp only [List.append_assoc, List.cons_append, skipBlanks_value hbefore hitem]
      exact hread hitem (by omega) (endsNumber_append_cons hafter (by simp) _)

/-- Items start with a value, behind blanks. -/
theorem exists_start_of_items (h : Items text list) :
    ∃ before c tail, Blanks before ∧ text = before ++ c :: tail ∧ ¬ IsBlank c ∧ c ≠ ']' := by
  cases h with
  | last hbefore hitem hafter =>
    obtain ⟨c, tail, rfl, hc⟩ := exists_start_of_value hitem
    exact ⟨_, c, _, hbefore, rfl, hc⟩
  | cons hbefore hitem hafter hrest =>
    obtain ⟨c, tail, rfl, hc⟩ := exists_start_of_value hitem
    exact ⟨_, c, _, hbefore, rfl, hc⟩

/-- Every item takes up a character at least. -/
theorem length_le_of_items (h : Items text list) (rest : List Char) :
    list.length ≤ (skipBlanks (text ++ rest)).length := by
  induction list generalizing text with
  | nil => cases h
  | cons item list ih =>
    cases h with
    | last hbefore hitem hafter =>
      obtain ⟨c, tail, rfl, -⟩ := exists_start_of_value hitem
      simp only [List.append_assoc, skipBlanks_value hbefore hitem, List.length_append,
        List.length_cons, List.length_nil]
      omega
    | cons hbefore hitem hafter hrest =>
      have hlist := Nat.le_trans (ih hrest) (length_skipBlanks_le _)
      simp only [List.append_assoc, List.cons_append, skipBlanks_value hbefore hitem,
        List.length_append, List.length_cons] at hlist ⊢
      omega

/-- An array is read from after its opening bracket. -/
theorem arrayEnd_append (hread : ReadsUpTo limit read) (h : Items text list)
    (hlimit : text.length ≤ limit) (rest : List Char) :
    arrayEnd read (text ++ ']' :: rest) = some (.array list, rest) := by
  have hitems := items_append hread h hlimit (length_le_of_items h (']' :: rest)) rest
  -- blanks are skipped before it is known whether the array is empty
  obtain ⟨before, c, tail, hbefore, rfl, hblank, hclose⟩ := exists_start_of_items h
  have hskip : skipBlanks (before ++ c :: tail ++ ']' :: rest) = c :: (tail ++ ']' :: rest) := by
    rw [List.append_assoc, List.cons_append, skipBlanks_append_cons hbefore hblank]
  rw [items_congr (hskip.trans (skipBlanks_cons hblank _).symm), hskip] at hitems
  rw [arrayEnd.eq_1, hskip]
  split
  · next heq => exact absurd (List.cons.inj heq).1 hclose
  · rw [hitems, Option.map_some]

theorem arrayEnd_blanks (h : Blanks blanks) (rest : List Char) :
    arrayEnd read (blanks ++ ']' :: rest) = some (.array [], rest) := by
  simp only [arrayEnd.eq_1, skipBlanks_append_cons h (c := ']') (by simp [IsBlank])]

end Items

/-! ### Objects -/

section Fields

variable {limit bound : Nat} {read : Scan Json} {entry : String × Json}
  {list : List (String × Json)} {more blanks : List Char}

/-- A field is read up to a comma or the closing brace behind it. -/
theorem field_append (hread : ReadsUpTo limit read) (h : Field text entry)
    (hlimit : text.length ≤ limit) {mark : Char} (hmark : mark = ',' ∨ mark = '}')
    (rest : List Char) :
    ∃ after, Blanks after ∧
      field read (text ++ mark :: rest) = some (entry, after ++ mark :: rest) := by
  cases h with
  | mk hbefore hname hgap hspace hvalue hafter =>
    simp only [List.length_append, List.length_cons] at hlimit
    have hends := endsNumber_append_cons hafter (hmark.imp id .inr) rest
    have hread' := hread hvalue (by omega) hends
    refine ⟨_, hafter, ?_⟩
    simp only [List.append_assoc, List.cons_append, field]
    rw [skipBlanks_append_cons hbefore (by simp [IsBlank]), stringText_append hname]
    simp only [Option.bind_eq_bind, Option.bind_some,
      skipBlanks_append_cons hgap (c := ':') (by simp [IsBlank]), skipBlanks_value hspace hvalue,
      hread', Option.pure_def]

/-- The last field is read up to the brace behind it. -/
theorem fields_last (hfield : field read text = some (entry, blanks ++ '}' :: rest))
    (hblanks : Blanks blanks) : fields read (bound + 1) text = some ([entry], rest) := by
  rw [fields.eq_2, hfield]
  simp [skipBlanks_append_cons hblanks (c := '}') (by simp [IsBlank])]

/-- Any other field is read up to the comma behind it. -/
theorem fields_cons (hfield : field read text = some (entry, blanks ++ ',' :: more))
    (hblanks : Blanks blanks) (hmore : fields read bound more = some (list, rest)) :
    fields read (bound + 1) text = some (entry :: list, rest) := by
  rw [fields.eq_2, hfield]
  simp [skipBlanks_append_cons hblanks (c := ',') (by simp [IsBlank]), hmore]

theorem fields_append (hread : ReadsUpTo limit read) (h : Fields text list)
    (hlimit : text.length ≤ limit) (hbound : list.length ≤ bound) (rest : List Char) :
    fields read bound (text ++ '}' :: rest) = some (list, rest) := by
  induction list generalizing text bound with
  | nil => cases h
  | cons entry list ih =>
    obtain ⟨bound, rfl⟩ := Nat.exists_eq_succ_of_ne_zero (Nat.ne_zero_of_lt hbound)
    cases h with
    | last hfield =>
      obtain ⟨after, hafter, hfield⟩ := field_append hread hfield hlimit (.inr rfl) rest
      exact fields_last hfield hafter
    | cons hfield hrest =>
      simp only [List.length_append, List.length_cons] at hlimit
      rw [List.append_assoc, List.cons_append]
      obtain ⟨after, hafter, hfield⟩ := field_append hread hfield (by omega) (.inl rfl) _
      exact fields_cons hfield hafter (ih hrest (by omega) (Nat.le_of_succ_le_succ hbound))

/-- A field starts with a quote, behind blanks. -/
theorem exists_start_of_field (h : Field text entry) :
    ∃ before tail, Blanks before ∧ text = before ++ '\x22' :: tail := by
  cases h with
  | mk hbefore _ _ _ _ _ => exact ⟨_, _, hbefore, rfl⟩

theorem exists_start_of_fields (h : Fields text list) :
    ∃ before tail, Blanks before ∧ text = before ++ '\x22' :: tail := by
  cases h with
  | last hfield => exact exists_start_of_field hfield
  | cons hfield hrest =>
    obtain ⟨before, tail, hbefore, rfl⟩ := exists_start_of_field hfield
    exact ⟨before, _, hbefore, List.append_assoc _ _ _⟩

/-- Every field takes up a character at least. -/
theorem length_le_of_fields (h : Fields text list) (rest : List Char) :
    list.length ≤ (skipBlanks (text ++ rest)).length := by
  induction list generalizing text with
  | nil => cases h
  | cons entry list ih =>
    cases h with
    | last hfield =>
      obtain ⟨before, tail, hbefore, rfl⟩ := exists_start_of_field hfield
      rw [List.append_assoc, List.cons_append,
        skipBlanks_append_cons hbefore (by simp [IsBlank])]
      simp only [List.length_cons, List.length_nil]
      omega
    | cons hfield hrest =>
      have hlist := Nat.le_trans (ih hrest) (length_skipBlanks_le _)
      obtain ⟨before, tail, hbefore, rfl⟩ := exists_start_of_field hfield
      simp only [List.append_assoc, List.cons_append]
      rw [skipBlanks_append_cons hbefore (by simp [IsBlank])]
      simp only [List.length_append, List.length_cons] at hlist ⊢
      omega

/-- Blanks in front of the fields make no difference. -/
theorem fields_congr {text' : List Char} (h : skipBlanks text = skipBlanks text') :
    fields read bound text = fields read bound text' := by
  cases bound with
  | zero => rfl
  | succ bound => rw [fields.eq_2, fields.eq_2, field, field, h]

/-- An object is read from after its opening brace. -/
theorem objectEnd_append (hread : ReadsUpTo limit read) (h : Fields text list)
    (hlimit : text.length ≤ limit) (rest : List Char) :
    objectEnd read (text ++ '}' :: rest) = some (.object list, rest) := by
  have hfields := fields_append hread h hlimit (length_le_of_fields h ('}' :: rest)) rest
  obtain ⟨before, tail, hbefore, rfl⟩ := exists_start_of_fields h
  have hquote : ¬ IsBlank '\x22' := by simp [IsBlank]
  have hskip : skipBlanks (before ++ '\x22' :: tail ++ '}' :: rest) =
      '\x22' :: (tail ++ '}' :: rest) := by
    rw [List.append_assoc, List.cons_append, skipBlanks_append_cons hbefore hquote]
  rw [fields_congr (hskip.trans (skipBlanks_cons hquote _).symm), hskip] at hfields
  rw [objectEnd.eq_1, hskip]
  split
  · next heq => exact absurd (List.cons.inj heq).1 (by decide)
  · rw [hfields, Option.map_some]

theorem objectEnd_blanks (h : Blanks blanks) (rest : List Char) :
    objectEnd read (blanks ++ '}' :: rest) = some (.object [], rest) := by
  simp only [objectEnd.eq_1, skipBlanks_append_cons h (c := '}') (by simp [IsBlank])]

end Fields

/-- A text has enough characters for every level of nesting in it. -/
theorem readsUpTo_value (depth : Nat) : ReadsUpTo depth (value depth) := by
  induction depth with
  | zero =>
    intro text json rest h hlength
    obtain ⟨c, tail, rfl, -⟩ := exists_start_of_value h
    exact absurd hlength (Nat.not_succ_le_zero _)
  | succ depth ih =>
    intro text json rest h hlength hrest
    cases h with
    | null => rfl
    | true => rfl
    | false => rfl
    | number h =>
      have hsimple := simple_number h hrest
      obtain ⟨c, tail, rfl, hc⟩ := exists_start_of_number h
      rw [← hsimple]
      refine value_eq_simple ?_ ?_ depth _
      all_goals
        rintro rfl
        rcases hc with hc | hc <;> exact absurd hc (by decide)
    | string h =>
      have hread := stringText_append h rest
      simp only [List.append_assoc, List.cons_append, List.nil_append]
      rw [value_eq_simple (by decide) (by decide)]
      simp only [simple, hread, Option.map_some]
    | emptyArray h =>
      simp only [List.append_assoc, List.cons_append, List.nil_append]
      exact arrayEnd_blanks h rest
    | array h =>
      -- what stands between brackets is shorter than with them
      simp only [List.length_append, List.length_cons] at hlength
      simp only [List.append_assoc, List.cons_append, List.nil_append]
      exact arrayEnd_append ih h (by omega) rest
    | emptyObject h =>
      simp only [List.append_assoc, List.cons_append, List.nil_append]
      exact objectEnd_blanks h rest
    | object h =>
      simp only [List.length_append, List.length_cons] at hlength
      simp only [List.append_assoc, List.cons_append, List.nil_append]
      exact objectEnd_append ih h (by omega) rest

end Values

end Reader

/-! ## Texts -/

/-- A text of a value is read as that value. -/
theorem parse?_of_isText {text : String} {json : Json} (h : Grammar.IsText text json) :
    parse? text = some json := by
  obtain ⟨before, spelled, after, hbefore, hvalue, hafter, htext⟩ := h
  have hends : Reader.EndsNumber after := by
    intro c hc
    rcases hafter c (List.mem_of_mem_head? hc) with rfl | rfl | rfl | rfl <;> decide
  have hlength : spelled.length ≤ text.toList.length := by
    rw [htext, List.length_append, List.length_append]
    omega
  have hread := Reader.readsUpTo_value _ hvalue hlength hends
  have hrest : Reader.skipBlanks after = [] := by
    have hskipped := Reader.skipBlanks_append hafter []
    rwa [List.append_nil] at hskipped
  have hskip : Reader.skipBlanks text.toList = spelled ++ after := by
    rw [htext, Reader.skipBlanks_value hbefore hvalue]
  simp only [parse?, hskip, hread, hrest, List.isEmpty_nil, if_true]

/-- No text is one of two values. -/
theorem Grammar.IsText.unique {text : String} {json other : Json} (h : IsText text json)
    (hother : IsText text other) : json = other :=
  Option.some.inj ((parse?_of_isText h).symm.trans (parse?_of_isText hother))

/-- A text says one value, whoever reads it. -/
structure Denotes (text : String) (json : Json) : Prop where
  /-- The text follows the grammar, with this value. -/
  wellFormed : Grammar.IsText text json
  /-- By the grammar it has no other value. -/
  unique : ∀ other, Grammar.IsText text other → other = json
  /-- The reader of this library comes to the value too. -/
  parsed : parse? text = some json

theorem Grammar.IsText.denotes {text : String} {json : Json} (h : IsText text json) :
    Denotes text json :=
  ⟨h, fun _ hother => hother.unique h, parse?_of_isText h⟩

end LayeredFlags.Json
