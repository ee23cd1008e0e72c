import LayeredFlags.Proofs.Outcome
import LayeredFlags.Text.Integer
import Mathlib.Tactic.Common
/-!
# Numerals

A number of 64 bits is read digit by digit, and each step checks that the number so far is one. As
digits only make a number greater, the checks together say no more than that the whole number is
one. What is read is therefore every decimal numeral whose value has 64 bits, with any number of
zeros in front.

## Main definitions

* `Text.Digits`: decimal digits and the number that they spell;
* `Text.Numeral`: decimal numerals and their values.

## Main results

* `Text.readMagnitude_eq_ok_iff`: digits are read as their number, if that is below the limit;
* `Text.readInt64_eq_ok_iff`: a text is read as a number exactly if it is a numeral of that value;
* `Text.numeral_toString`: what is written of a number is a numeral of that value.
-/

namespace LayeredFlags.Text

/-- The text is one or more decimal digits, and they spell the number. -/
structure Digits (text : List Char) (number : Nat) : Prop where
  /-- There is a digit. -/
  ne_nil : text ≠ []
  /-- There is nothing else. -/
  isDigit_of_mem : ∀ c ∈ text, c.isDigit = true
  /-- The first digit is the most significant one. -/
  number_eq : Nat.ofDigitChars 10 text 0 = number

/-- The text is a decimal numeral of the given value. -/
inductive Numeral : List Char → Int → Prop where
  /-- Digits alone. -/
  | unsigned {digits : List Char} {number : Nat} (h : Digits digits number) :
      Numeral digits number
  /-- A plus sign changes nothing. -/
  | plus {digits : List Char} {number : Nat} (h : Digits digits number) :
      Numeral ('+' :: digits) number
  /-- A minus sign stands for the negative number. -/
  | minus {digits : List Char} {number : Nat} (h : Digits digits number) :
      Numeral ('-' :: digits) (-number)

variable {text digits : List Char} {number : Int64} {value : Int}

/-! ## Digits -/

/-- Further digits do not make a number smaller. -/
theorem le_ofDigitChars (digits : List Char) (start : Nat) :
    start ≤ Nat.ofDigitChars 10 digits start := by
  rw [Nat.ofDigitChars_eq_ofDigitChars_zero]
  have hpow : start ≤ 10 ^ digits.length * start :=
    Nat.le_mul_of_pos_left start (Nat.pow_pos (by decide))
  omega

/-- Digits are read as the number that they spell, if that is below the limit. -/
theorem readMagnitude_eq_ok_iff {limit magnitude result : Nat} {overflow : IntegerError}
    (h : magnitude < limit) :
    readMagnitude limit overflow magnitude digits = .ok result ↔
      (∀ c ∈ digits, c.isDigit = true) ∧ Nat.ofDigitChars 10 digits magnitude = result ∧
        result < limit := by
  induction digits generalizing magnitude with
  | nil =>
    rw [readMagnitude, Except.ok.injEq, Nat.ofDigitChars_nil]
    constructor
    · rintro rfl
      exact ⟨List.forall_mem_nil _, rfl, h⟩
    · exact fun hresult => hresult.2.1
  | cons c rest ih =>
    rw [readMagnitude, List.forall_mem_cons, Nat.ofDigitChars_cons]
    change (if c.isDigit = true then
      if 10 * magnitude + (c.toNat - '0'.toNat) < limit then
        readMagnitude limit overflow (10 * magnitude + (c.toNat - '0'.toNat)) rest
      else .error overflow
      else .error .invalidDigit) = .ok result ↔ _
    split
    · next hdigit =>
      rw [and_iff_right hdigit]
      split
      · next hnext => exact ih hnext
      · next hover =>
        -- the whole number is at least as great as the one that is too great already
        refine iff_of_false nofun ?_
        rintro ⟨-, rfl, hresult⟩
        have hle := le_ofDigitChars rest (10 * magnitude + (c.toNat - '0'.toNat))
        omega
    · next hdigit => exact iff_of_false nofun fun hall => hdigit hall.1.1

/-- Digits are read as a number from the start if there is one. -/
theorem readMagnitude_zero_eq_ok_iff {limit result : Nat} {overflow : IntegerError}
    (hlimit : 0 < limit) :
    digits ≠ [] ∧ readMagnitude limit overflow 0 digits = .ok result ↔
      Digits digits result ∧ result < limit := by
  rw [readMagnitude_eq_ok_iff hlimit]
  constructor
  · rintro ⟨hne, hdigits, hnumber, hlt⟩
    exact ⟨⟨hne, hdigits, hnumber⟩, hlt⟩
  · rintro ⟨⟨hne, hdigits, hnumber⟩, hlt⟩
    exact ⟨hne, hdigits, hnumber, hlt⟩

theorem readPositive_eq_ok_iff :
    readPositive digits = .ok number ↔ ∃ n : Nat, Digits digits n ∧ number.toInt = n := by
  have hread : readPositive digits = .ok number ↔
      ∃ n, (digits ≠ [] ∧ readMagnitude (2 ^ 63) .tooLarge 0 digits = .ok n) ∧
        Int64.ofNat n = number := by
    by_cases hnil : digits = []
    · simp [readPositive, hnil]
    · rw [readPositive, if_neg (mt List.isEmpty_iff.1 hnil)]
      cases readMagnitude (Nat.pow 2 63) .tooLarge 0 digits <;> simp [hnil, Except.map]
  rw [hread]
  refine exists_congr fun n => ?_
  rw [readMagnitude_zero_eq_ok_iff (by decide), and_assoc]
  refine and_congr_right fun _ => ⟨?_, fun hvalue => ?_⟩
  · rintro ⟨hlt, rfl⟩
    exact Int64.toInt_ofNat_of_lt hlt
  · have hlt : n < 2 ^ 63 := by
      have := number.toInt_lt
      omega
    exact ⟨hlt, by rw [← Int64.toInt_inj, Int64.toInt_ofNat_of_lt hlt, hvalue]⟩

theorem readNegative_eq_ok_iff :
    readNegative digits = .ok number ↔ ∃ n : Nat, Digits digits n ∧ number.toInt = -n := by
  have hread : readNegative digits = .ok number ↔
      ∃ n : Nat, (digits ≠ [] ∧ readMagnitude (2 ^ 63 + 1) .tooSmall 0 digits = .ok n) ∧
        Int64.ofInt (-n) = number := by
    by_cases hnil : digits = []
    · simp [readNegative, hnil]
    · rw [readNegative, if_neg (mt List.isEmpty_iff.1 hnil)]
      cases readMagnitude (Nat.pow 2 63 + 1) .tooSmall 0 digits <;> simp [hnil, Except.map]
  rw [hread]
  refine exists_congr fun n => ?_
  rw [readMagnitude_zero_eq_ok_iff (by decide), and_assoc]
  refine and_congr_right fun _ => ⟨?_, fun hvalue => ?_⟩
  · rintro ⟨hlt, rfl⟩
    exact Int64.toInt_ofInt_of_le (by omega) (by omega)
  · refine ⟨?_, by rw [← hvalue, Int64.ofInt_toInt]⟩
    have := number.le_toInt
    omega

/-! ## Numerals -/

/-- Digits do not start with a sign. -/
theorem Digits.head_ne {c : Char} {rest : List Char} {n : Nat} (h : Digits (c :: rest) n) :
    c ≠ '+' ∧ c ≠ '-' := by
  have hdigit := h.isDigit_of_mem c List.mem_cons_self
  constructor
  · rintro rfl
    cases hdigit
  · rintro rfl
    cases hdigit

/-- A text is read as a number of 64 bits exactly if it is a numeral of that value. -/
theorem readInt64_eq_ok_iff : readInt64 text = .ok number ↔ Numeral text number.toInt := by
  constructor
  · intro h
    fun_cases readInt64 text with
    | case1 => cases h
    | case2 digits =>
      obtain ⟨n, hdigits, hvalue⟩ := readPositive_eq_ok_iff.1 h
      exact hvalue ▸ .plus hdigits
    | case3 digits =>
      obtain ⟨n, hdigits, hvalue⟩ := readNegative_eq_ok_iff.1 h
      exact hvalue ▸ .minus hdigits
    | case4 _ hnil hplus hminus =>
      rw [readInt64.eq_4 _ hnil hplus hminus] at h
      obtain ⟨n, hdigits, hvalue⟩ := readPositive_eq_ok_iff.1 h
      exact hvalue ▸ .unsigned hdigits
  · intro h
    generalize hvalue : number.toInt = value at h
    cases h with
    | @unsigned _ n hdigits =>
      -- digits do not start with a sign, so that they are all read as digits
      cases text with
      | nil => exact absurd rfl hdigits.ne_nil
      | cons c rest =>
        obtain ⟨hplus, hminus⟩ := hdigits.head_ne
        rw [readInt64]
        · exact readPositive_eq_ok_iff.2 ⟨n, hdigits, hvalue⟩
        · exact List.cons_ne_nil c rest
        · exact fun _ heq => hplus (List.cons.inj heq).1
        · exact fun _ heq => hminus (List.cons.inj heq).1
    | @plus digits n hdigits => exact readPositive_eq_ok_iff.2 ⟨n, hdigits, hvalue⟩
    | @minus digits n hdigits => exact readNegative_eq_ok_iff.2 ⟨n, hdigits, hvalue⟩

/-- Every character of a numeral is a digit or a sign. -/
theorem Numeral.isDigit_or_of_mem (h : Numeral text value) {c : Char} (hc : c ∈ text) :
    c.isDigit = true ∨ c = '+' ∨ c = '-' := by
  cases h with
  | unsigned h => exact .inl (h.isDigit_of_mem c hc)
  | plus h =>
    rcases List.mem_cons.1 hc with rfl | hc
    · exact .inr (.inl rfl)
    · exact .inl (h.isDigit_of_mem c hc)
  | minus h =>
    rcases List.mem_cons.1 hc with rfl | hc
    · exact .inr (.inr rfl)
    · exact .inl (h.isDigit_of_mem c hc)

/-! ## Written numbers -/

/-- A whole number is written as its sign, if it is negative, and its digits. -/
theorem toList_toString (n : Int) :
    (toString n).toList = (if n < 0 then ['-'] else []) ++ Nat.toDigits 10 n.natAbs := by
  rw [Int.toString_eq_repr, Int.repr_eq_if]
  split
  · next h =>
    rw [if_neg (by omega), Nat.repr_eq_ofList_toDigits, String.toList_ofList, List.nil_append,
      ← Int.toNat_of_nonneg h]
    rfl
  · next h =>
    have hneg : (-n).toNat = n.natAbs := by omega
    rw [if_pos (by omega), hneg, Nat.repr_eq_ofList_toDigits, String.toList_append]
    exact congrArg ('-' :: ·) String.toList_ofList

theorem digits_toDigits (n : Nat) : Digits (Nat.toDigits 10 n) n where
  ne_nil := Nat.toDigits_ne_nil
  isDigit_of_mem _ hc := Nat.isDigit_of_mem_toDigits (by decide) (by decide) hc
  number_eq := Nat.ofDigitChars_ten_toDigits

/-- What is written of a number is a numeral of that value. -/
theorem numeral_toString (n : Int) : Numeral (toString n).toList n := by
  have hdigits := digits_toDigits n.natAbs
  rw [toList_toString]
  split
  · next hneg =>
    have hvalue : -(n.natAbs : Int) = n := by omega
    have hnumeral := Numeral.minus hdigits
    rwa [hvalue] at hnumeral
  · next hpos =>
    have hvalue : (n.natAbs : Int) = n := by omega
    have hnumeral := Numeral.unsigned hdigits
    rwa [hvalue] at hnumeral

end LayeredFlags.Text
