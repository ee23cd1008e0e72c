import LayeredFlags.Json.Canonical
import LayeredFlags.Proofs.Json.Reading
import LayeredFlags.Proofs.Text.Integer
/-!
# Written JSON

The compact form and the pretty form of a value are texts of that value, and so is the canonical
form of the value with its fields sorted. What is written is therefore read again, and different
values have different texts in every form.

## Main results

* `Grammar.number_digits`, `Grammar.characters_escape`: numbers and strings follow the grammar;
* `isText_compact`, `isText_pretty`: so do values in both forms;
* `parse?_compact`, `parse?_pretty`: each form is read as the value;
* `parse?_canonicalText`: and the canonical text as the value with its fields sorted.
-/

namespace LayeredFlags.Json

namespace Grammar

open Text

/-! ## Strings -/

/-- A control character is written by its code point. -/
theorem numberFrom?_control :
    ∀ n < 0x20, numberFrom? 16 0 ['0', '0', hexDigit (n / 16), hexDigit (n % 16)] = some n := by
  decide

/-- A character is written by a letter, by its code point or as it is. -/
theorem character_escape (c : Char) : Character (escape c) c := by
  by_cases hshort : c ∈ ['\x22', '\\', '\x08', '\t', '\n', '\x0c', '\r']
  · simp only [List.mem_cons, List.not_mem_nil, or_false] at hshort
    rcases hshort with rfl | rfl | rfl | rfl | rfl | rfl | rfl <;> exact .short (by decide)
  · have hescape : escape c =
        if c.toNat < 0x20 then
          ['\\', 'u', '0', '0', hexDigit (c.toNat / 16), hexDigit (c.toNat % 16)]
        else [c] := by
      simp only [List.mem_cons, List.not_mem_nil, or_false, not_or] at hshort
      simp [escape, hshort]
    rw [hescape]
    simp only [List.mem_cons, not_or] at hshort
    split
    · next hcontrol => exact .unit ⟨rfl, numberFrom?_control c.toNat hcontrol⟩
    · next hcontrol => exact .plain (Nat.not_lt.1 hcontrol) hshort.1 hshort.2.1

theorem characters_escape (text : List Char) : Characters (text.flatMap escape) text := by
  induction text with
  | nil => exact .nil
  | cons c text ih => exact .cons (character_escape c) ih

/-! ## Numbers -/

theorem hexValue?_digitChar : ∀ n < 10, hexValue? n.digitChar = some n := by
  decide

/-- One more digit makes the number ten times as great, and the digit is added. -/
theorem numberFrom?_concat {digits : List Char} {start number digit : Nat}
    (h : numberFrom? 10 start digits = some number) (hdigit : digit < 10) :
    numberFrom? 10 start (digits ++ [digit.digitChar]) = some (10 * number + digit) := by
  induction digits generalizing start with
  | nil =>
    cases h
    simp only [List.nil_append, numberFrom?, hexValue?_digitChar digit hdigit, if_pos hdigit]
  | cons c digits ih =>
    simp only [List.cons_append, numberFrom?] at h ⊢
    split at h
    · split at h
      · next hbase => rw [if_pos hbase, ih h]
      · cases h
    · cases h

theorem numberFrom?_toDigits (n : Nat) : numberFrom? 10 0 (Nat.toDigits 10 n) = some n := by
  induction n using Nat.strongRecOn with
  | ind n ih =>
    rw [Nat.toDigits_eq_if (by decide)]
    split
    · next hlt =>
      simp only [numberFrom?, hexValue?_digitChar n hlt, if_pos hlt, Nat.mul_zero, Nat.zero_add]
    · next hge =>
      rw [numberFrom?_concat (ih (n / 10) (by omega)) (Nat.mod_lt n (by decide)), Nat.div_add_mod]

theorem digits_toDigits (n : Nat) : Digits (Nat.toDigits 10 n) :=
  ⟨(Text.digits_toDigits n).ne_nil, (Text.digits_toDigits n).isDigit_of_mem⟩

theorem head?_toDigits {n : Nat} (h : n ≠ 0) : (Nat.toDigits 10 n).head? ≠ some '0' := by
  induction n using Nat.strongRecOn with
  | ind n ih =>
    rw [Nat.toDigits_eq_if (by decide)]
    split
    · simpa [Nat.digitChar_eq_zero] using h
    · obtain ⟨c, tail, heq⟩ := List.exists_cons_of_ne_nil (digits_toDigits (n / 10)).1
      have hhead := ih (n / 10) (by omega) (by omega)
      rw [heq] at hhead ⊢
      exact hhead

theorem whole_toDigits (n : Nat) : Whole (Nat.toDigits 10 n) := by
  by_cases h : n = 0
  · rw [h]
    exact .zero
  · exact .digits (digits_toDigits n) (head?_toDigits h)

/-- A whole number is written as its sign, if it is negative, and its digits. -/
theorem digits_eq (n : Int) :
    digits n = (if n < 0 then ['-'] else []) ++ Nat.toDigits 10 n.natAbs :=
  toList_toString n

theorem signed_natAbs (n : Int) : signed (decide (n < 0)) n.natAbs = n := by
  simp only [signed, decide_eq_true_eq]
  split <;> omega

theorem number_digits (n : Int) : Number (digits n) (.integer n) := by
  have h := Number.mk (decide (n < 0)) (whole_toDigits n.natAbs) .absent .absent
    (by simpa using numberFrom?_toDigits n.natAbs)
  have hvalue : numberOf (decide (n < 0)) n.natAbs none none = .integer n := by
    rw [numberOf, signed_natAbs, if_pos ⟨rfl, rfl, by simp; omega⟩]
  rw [hvalue] at h
  simpa [digits_eq] using h

/-- An exponent is written as a whole number. -/
theorem exponent_digits (n : Int) : Exponent ('e' :: digits n) (some n) := by
  rw [digits_eq]
  by_cases h : n < 0
  · have := Exponent.minus (.inl rfl) (digits_toDigits n.natAbs) (numberFrom?_toDigits n.natAbs)
    have hn : -(n.natAbs : Int) = n := by omega
    rw [hn] at this
    simpa [h] using this
  · have := Exponent.unsigned (.inl rfl) (digits_toDigits n.natAbs) (numberFrom?_toDigits n.natAbs)
    have hn : (n.natAbs : Int) = n := by omega
    rw [hn] at this
    simpa [h] using this

theorem number_scientific (mantissa exponent : Int) :
    Number (scientific mantissa exponent) (.decimal mantissa exponent) := by
  have h := Number.mk (decide (mantissa < 0)) (whole_toDigits mantissa.natAbs) .absent
    (exponent_digits exponent) (by simpa using numberFrom?_toDigits mantissa.natAbs)
  have hvalue : numberOf (decide (mantissa < 0)) mantissa.natAbs none (some exponent) =
      .decimal mantissa exponent := by
    rw [numberOf, signed_natAbs, if_neg (by simp)]
    simp
  rw [hvalue] at h
  simpa [scientific, digits_eq mantissa] using h

/-! ## Lists -/

theorem blanks_nil : Blanks [] := fun _ h => by cases h

section Lists

variable {before after : List Char} {print : Json → List Char}

/-- Items that are written one after the other, with a comma before each but the first and the
same blanks around each. -/
theorem items_of_write (write : Bool → List Json → List Char) (hbefore : Blanks before)
    (hafter : Blanks after) (hnil : write false [] = [])
    (hcons : ∀ first item rest, write first (item :: rest) =
      (if first then [] else [',']) ++ before ++ print item ++ write false rest)
    {items : List Json} (hne : items ≠ []) (h : ∀ item ∈ items, Value (print item) item) :
    Items (write true items ++ after) items := by
  induction items with
  | nil => exact absurd rfl hne
  | cons item rest ih =>
    rw [List.forall_mem_cons] at h
    rw [hcons]
    cases rest with
    | nil => simpa [hnil] using Items.last hbefore h.1 hafter
    | cons next rest =>
      -- but for the comma, the others are written like items of their own
      have hrest := Items.cons hbefore h.1 blanks_nil (ih (by simp) h.2)
      simpa [hcons] using hrest

/-- So are fields. -/
theorem fields_of_write (write : Bool → List (String × Json) → List Char) {gap : List Char}
    (hbefore : Blanks before) (hgap : Blanks gap) (hafter : Blanks after)
    (hnil : write false [] = [])
    (hcons : ∀ first field rest, write first (field :: rest) =
      (if first then [] else [',']) ++ before ++ quoted field.1.toList ++ ':' :: gap ++
        print field.2 ++ write false rest)
    {fields : List (String × Json)} (hne : fields ≠ [])
    (h : ∀ field ∈ fields, Value (print field.2) field.2) :
    Fields (write true fields ++ after) fields := by
  have hfield : ∀ {field : String × Json} {after : List Char}, Blanks after →
      Value (print field.2) field.2 →
      Field (before ++ quoted field.1.toList ++ ':' :: gap ++ print field.2 ++ after) field := by
    intro field after hafter hvalue
    have := Field.mk hbefore (characters_escape field.1.toList) blanks_nil hgap
      hvalue hafter
    simpa [quoted] using this
  induction fields with
  | nil => exact absurd rfl hne
  | cons field rest ih =>
    rw [List.forall_mem_cons] at h
    rw [hcons]
    cases rest with
    | nil => simpa [hnil] using Fields.last (hfield hafter h.1)
    | cons next rest =>
      have hrest := Fields.cons (hfield blanks_nil h.1) (ih (by simp) h.2)
      simpa [hcons] using hrest

end Lists

/-! ## Values -/

theorem value_string (text : String) : Value (quoted text.toList) (.string text) :=
  .string (characters_escape text.toList)

theorem value_truth (value : Bool) : Value (truth value) (.bool value) := by
  cases value with
  | true => exact .true
  | false => exact .false

theorem value_compactChars (json : Json) : Value (compactChars json) json := by
  induction json using Json.induction with
  | null => exact .null
  | bool value => exact value_truth value
  | integer number => exact .number (number_digits number)
  | decimal mantissa exponent => exact .number (number_scientific mantissa exponent)
  | string text => exact value_string text
  | array items ih =>
    cases items with
    | nil => exact .emptyArray blanks_nil
    | cons item rest =>
      have h := items_of_write compactItems blanks_nil blanks_nil rfl
        (fun first item rest => by simp [compactItems]) (List.cons_ne_nil item rest) ih
      rw [List.append_nil] at h
      exact .array h
  | object fields ih =>
    cases fields with
    | nil => exact .emptyObject blanks_nil
    | cons field rest =>
      have h := fields_of_write compactFields blanks_nil blanks_nil blanks_nil rfl
        (fun first field rest => by simp [compactFields]) (List.cons_ne_nil field rest) ih
      rw [List.append_nil] at h
      exact .object h

theorem blanks_newLine (level : Nat) : Blanks (newLine level) := by
  intro c hc
  rcases List.mem_cons.1 hc with rfl | hc
  · exact .inr (.inr (.inl rfl))
  · exact .inl (List.eq_of_mem_replicate hc)

theorem value_prettyChars (level : Nat) (json : Json) : Value (prettyChars level json) json := by
  induction json using Json.induction generalizing level with
  | null => exact .null
  | bool value => exact value_truth value
  | integer number => exact .number (number_digits number)
  | decimal mantissa exponent => exact .number (number_scientific mantissa exponent)
  | string text => exact value_string text
  | array items ih =>
    cases items with
    | nil => exact .emptyArray blanks_nil
    | cons item rest =>
      exact .array <| items_of_write (prettyItems (level + 1)) (blanks_newLine (level + 1))
        (blanks_newLine level) rfl (fun first item rest => by simp [prettyItems])
        (List.cons_ne_nil item rest) fun item hitem => ih item hitem (level + 1)
  | object fields ih =>
    cases fields with
    | nil => exact .emptyObject blanks_nil
    | cons field rest =>
      have hspace : Blanks [' '] := fun c hc => .inl (List.mem_singleton.1 hc)
      exact .object <| fields_of_write (prettyFields (level + 1)) (blanks_newLine (level + 1))
        hspace (blanks_newLine level) rfl (fun first field rest => by simp [prettyFields])
        (List.cons_ne_nil field rest) fun field hfield => ih field hfield (level + 1)

end Grammar

/-! ## Texts -/

theorem isText_compact (json : Json) : Grammar.IsText json.compact json :=
  ⟨[], compactChars json, [], Grammar.blanks_nil, Grammar.value_compactChars json,
    Grammar.blanks_nil, by simp [compact]⟩

theorem isText_pretty (json : Json) : Grammar.IsText json.pretty json :=
  ⟨[], prettyChars 0 json, [], Grammar.blanks_nil, Grammar.value_prettyChars 0 json,
    Grammar.blanks_nil, by simp [pretty]⟩

/-- The compact form of a value is read as that value. -/
theorem parse?_compact (json : Json) : parse? json.compact = some json :=
  parse?_of_isText json.isText_compact

/-- The pretty form of a value is read as that value. -/
theorem parse?_pretty (json : Json) : parse? json.pretty = some json :=
  parse?_of_isText json.isText_pretty

theorem parse?_canonicalText (json : Json) : parse? json.canonicalText = some json.canonical :=
  parse?_compact json.canonical

end LayeredFlags.Json
