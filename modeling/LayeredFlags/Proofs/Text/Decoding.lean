import LayeredFlags.Text.Utf8
import Mathlib.Tactic.Common
/-!
# Decoding One Character

Decoding takes one character after the other, and stops at the first byte that cannot belong to
one. The bytes of a character are described by themselves, so that what decoding does with them is
one lemma for every number of bytes. Line feeds are bytes of their own, which makes the line that
decoding stops on a matter of the bytes alone.

## Main definitions

* `Utf8.Spells`: some bytes are one character;
* `Utf8.LongestText`: the longest beginning of some bytes that is a text.

## Main results

* `Utf8.decode_spelled`, `Utf8.exists_spelled_or_stop`: what decoding does with the next character;
* `Utf8.count_spelled`: a line feed is a byte of its own.
-/

namespace LayeredFlags.Utf8

/-- The bytes are one character, which has the given code point. -/
inductive Spells : List UInt8 → Nat → Prop where
  /-- A character of one byte. -/
  | one {a : UInt8} (h : a < 0x80) : Spells [a] a.toNat
  /-- A character of two bytes. -/
  | two {a b : UInt8} (h : isPair a b = true) : Spells [a, b] (a.toNat % 32 * 64 + low b)
  /-- A character of three bytes. -/
  | three {a b c : UInt8} (h : isTriple a b c = true) :
      Spells [a, b, c] (a.toNat % 16 * 4096 + low b * 64 + low c)
  /-- A character of four bytes. -/
  | four {a b c d : UInt8} (h : isQuadruple a b c d = true) :
      Spells [a, b, c, d] (a.toNat % 8 * 262144 + low b * 4096 + low c * 64 + low d)

/-- The longest beginning of some bytes that is a text. -/
structure LongestText (bytes text : List UInt8) : Prop where
  /-- The bytes begin with it. -/
  isPrefix : text <+: bytes
  /-- It is a text. -/
  isText : ∃ decoded, decode? text = some decoded
  /-- It is not shorter than another beginning that is a text. -/
  longest : ∀ other decoded, other <+: bytes → decode? other = some decoded →
    other.length ≤ text.length

/-! ## Bytes of a character -/

section Bytes

variable {a b c d : UInt8}

theorem lt_iff : a < 0x80 ↔ a.toNat < 128 := UInt8.lt_iff_toNat_lt

theorem isTail_iff : isTail b = true ↔ 128 ≤ b.toNat ∧ b.toNat ≤ 191 := by
  simp [isTail, UInt8.le_iff_toNat_le]

theorem isPair_iff : isPair a b = true ↔
    (194 ≤ a.toNat ∧ a.toNat ≤ 223) ∧ 128 ≤ b.toNat ∧ b.toNat ≤ 191 := by
  simp [isPair, isTail_iff, UInt8.le_iff_toNat_le]

theorem isTriple_iff : isTriple a b c = true ↔
    (128 ≤ c.toNat ∧ c.toNat ≤ 191) ∧
      (a.toNat = 224 ∧ 160 ≤ b.toNat ∧ b.toNat ≤ 191 ∨
        a.toNat = 237 ∧ 128 ≤ b.toNat ∧ b.toNat ≤ 159 ∨
        (225 ≤ a.toNat ∧ a.toNat ≤ 239 ∧ a.toNat ≠ 237) ∧ 128 ≤ b.toNat ∧ b.toNat ≤ 191) := by
  rw [isTriple, Bool.and_eq_true, isTail_iff]
  refine and_congr_right fun _ => ?_
  simp only [← UInt8.toNat_inj, UInt8.reduceToNat]
  split
  · simp only [Bool.and_eq_true, decide_eq_true_eq, UInt8.le_iff_toNat_le, UInt8.reduceToNat]
    omega
  · split
    · simp only [Bool.and_eq_true, decide_eq_true_eq, UInt8.le_iff_toNat_le, UInt8.reduceToNat]
      omega
    · simp only [Bool.and_eq_true, decide_eq_true_eq, isTail_iff, UInt8.le_iff_toNat_le,
        UInt8.reduceToNat]
      omega

theorem isQuadruple_iff : isQuadruple a b c d = true ↔
    ((128 ≤ c.toNat ∧ c.toNat ≤ 191) ∧ 128 ≤ d.toNat ∧ d.toNat ≤ 191) ∧
      (a.toNat = 240 ∧ 144 ≤ b.toNat ∧ b.toNat ≤ 191 ∨
        a.toNat = 244 ∧ 128 ≤ b.toNat ∧ b.toNat ≤ 143 ∨
        (241 ≤ a.toNat ∧ a.toNat ≤ 243) ∧ 128 ≤ b.toNat ∧ b.toNat ≤ 191) := by
  rw [isQuadruple, Bool.and_eq_true, Bool.and_eq_true, isTail_iff, isTail_iff]
  refine and_congr_right fun _ => ?_
  simp only [← UInt8.toNat_inj, UInt8.reduceToNat]
  split
  · simp only [Bool.and_eq_true, decide_eq_true_eq, UInt8.le_iff_toNat_le, UInt8.reduceToNat]
    omega
  · split
    · simp only [Bool.and_eq_true, decide_eq_true_eq, UInt8.le_iff_toNat_le, UInt8.reduceToNat]
      omega
    · simp only [Bool.and_eq_true, decide_eq_true_eq, isTail_iff, UInt8.le_iff_toNat_le,
        UInt8.reduceToNat]
      omega

end Bytes

/-! ## The next character -/

section Spelled

variable {spelled : List UInt8} {code : Nat}

theorem Spells.ne_nil (h : Spells spelled code) : spelled ≠ [] := by
  cases h <;> exact List.cons_ne_nil _ _

/-- The bytes of a character are decoded to that character, whatever follows them. -/
theorem decode_spelled (h : Spells spelled code) (rest : List UInt8) :
    decode (spelled ++ rest) = push code (decode rest) := by
  cases h with
  | one h =>
    rw [decode.eq_def]
    exact if_pos h
  | @two a b h =>
    have hbounds := isPair_iff.1 h
    have hone : ¬ a < 0x80 := by
      rw [lt_iff]
      omega
    rw [decode.eq_def]
    dsimp only [List.cons_append]
    rw [if_neg hone, if_pos h, List.nil_append]
  | @three a b c h =>
    have hbounds := isTriple_iff.1 h
    have hone : ¬ a < 0x80 := by
      rw [lt_iff]
      omega
    have htwo : ¬ isPair a b = true := by
      rw [isPair_iff]
      omega
    rw [decode.eq_def]
    dsimp only [List.cons_append]
    rw [if_neg hone, if_neg htwo, if_pos h, List.nil_append]
  | @four a b c d h =>
    have hbounds := isQuadruple_iff.1 h
    have hone : ¬ a < 0x80 := by
      rw [lt_iff]
      omega
    have htwo : ¬ isPair a b = true := by
      rw [isPair_iff]
      omega
    have hthree : ¬ isTriple a b c = true := by
      rw [isTriple_iff]
      omega
    rw [decode.eq_def]
    dsimp only [List.cons_append]
    rw [if_neg hone, if_neg htwo, if_neg hthree, if_pos h, List.nil_append]

/-- Either a character comes next, or decoding stops. -/
theorem exists_spelled_or_stop (bytes : List UInt8) :
    (∃ spelled code rest, Spells spelled code ∧ bytes = spelled ++ rest) ∨
      decode bytes = ([], bytes) := by
  match bytes with
  | [] => exact .inr rfl
  | a :: rest =>
    by_cases hone : a < 0x80
    · exact .inl ⟨[a], _, rest, .one hone, rfl⟩
    match rest with
    | [] => exact .inr (by simp [decode, hone])
    | b :: rest =>
      by_cases htwo : isPair a b = true
      · exact .inl ⟨[a, b], _, rest, .two htwo, rfl⟩
      match rest with
      | [] => exact .inr (by simp [decode, hone, htwo])
      | c :: rest =>
        by_cases hthree : isTriple a b c = true
        · exact .inl ⟨[a, b, c], _, rest, .three hthree, rfl⟩
        match rest with
        | [] => exact .inr (by simp [decode, hone, htwo, hthree])
        | d :: rest =>
          by_cases hfour : isQuadruple a b c d = true
          · exact .inl ⟨[a, b, c, d], _, rest, .four hfour, rfl⟩
          · exact .inr (by simp [decode, hone, htwo, hthree, hfour])

/-! ## Line feeds -/

theorem ofNat_eq_lineFeed_iff (code : Nat) : Char.ofNat code = '\n' ↔ code = 10 := by
  constructor
  · intro h
    have hcode := congrArg Char.toNat h
    by_cases hvalid : code.isValidChar
    · rw [Char.ofNat, dif_pos hvalid] at hcode
      exact hcode
    · rw [Char.ofNat, dif_neg hvalid] at hcode
      cases hcode
  · rintro rfl
    rfl

/-- Neither a character beyond those of one byte nor one of its bytes is a line feed. -/
theorem count_of_le (hbytes : ∀ b ∈ spelled, 128 ≤ b.toNat) (hcode : 128 ≤ code) :
    spelled.count 0x0A = [Char.ofNat code].count '\n' := by
  have hchar : '\n' ∉ [Char.ofNat code] := by
    intro hmem
    have heq := (ofNat_eq_lineFeed_iff code).1 (List.mem_singleton.1 hmem).symm
    omega
  have hbyte : (0x0A : UInt8) ∉ spelled := by
    intro hmem
    exact absurd (hbytes _ hmem) (by decide)
  rw [List.count_eq_zero_of_not_mem hbyte, List.count_eq_zero_of_not_mem hchar]

/-- A line feed is a byte of its own. -/
theorem count_spelled (h : Spells spelled code) :
    spelled.count 0x0A = [Char.ofNat code].count '\n' := by
  cases h with
  | @one a h =>
    have hiff : a = 0x0A ↔ Char.ofNat a.toNat = '\n' := by
      rw [ofNat_eq_lineFeed_iff, ← UInt8.toNat_inj]
      rfl
    simp only [List.count_singleton, beq_iff_eq, hiff]
  | @two a b h =>
    have hbounds := isPair_iff.1 h
    refine count_of_le ?_ (by omega)
    simp only [List.forall_mem_cons, List.not_mem_nil, false_imp_iff, implies_true, and_true]
    omega
  | @three a b c h =>
    have hbounds := isTriple_iff.1 h
    have hlow : 0xA0 ≤ b.toNat → 32 ≤ low b := by
      rw [low]
      omega
    refine count_of_le ?_ (by omega)
    simp only [List.forall_mem_cons, List.not_mem_nil, false_imp_iff, implies_true, and_true]
    omega
  | @four a b c d h =>
    have hbounds := isQuadruple_iff.1 h
    have hlow : 0x90 ≤ b.toNat → b.toNat ≤ 0xBF → 16 ≤ low b := by
      rw [low]
      omega
    refine count_of_le ?_ (by omega)
    simp only [List.forall_mem_cons, List.not_mem_nil, false_imp_iff, implies_true, and_true]
    omega

end Spelled

/-! ## Whole texts -/

theorem decode?_eq_some_iff {bytes : List UInt8} {text : String} :
    decode? bytes = some text ↔ decode bytes = (text.toList, []) := by
  unfold decode?
  split
  · next chars hchars =>
    rw [hchars, Option.some.injEq, Prod.mk.injEq, and_iff_left rfl]
    constructor
    · rintro rfl
      exact String.toList_ofList.symm
    · rintro rfl
      exact String.ofList_toList
  · next hleft =>
    constructor
    · rintro ⟨⟩
    · exact fun h => absurd h (hleft _)

end LayeredFlags.Utf8
