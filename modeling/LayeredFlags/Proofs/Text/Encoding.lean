import LayeredFlags.Proofs.Text.Decoding
/-!
# Encoded Texts

What is written of a text can be read again: decoding goes through the bytes of each character
and arrives at the bytes of the next. A character has one to four bytes, and each number of
bytes has a lemma of its own. No other bytes can be read as a text, because those of a character
are given by its number. What decoding takes of any bytes is therefore the longest text that they
begin with.

## Main definitions

* `Utf8.IsText`: some bytes are those of a text.

## Main results

* `Utf8.spells_utf8EncodeChar`: what is written of a character is that character;
* `Utf8.utf8EncodeChar_of_spells`: what is that character is what is written of it;
* `Utf8.decode?_toUTF8`: the bytes of a text are decoded to that text;
* `Utf8.decode?_eq_some_iff_toUTF8`: no others are decoded to it;
* `Utf8.exists_longestText`: decoding stops on the line that the longest text of the bytes ends on.
-/

namespace LayeredFlags.Utf8

/-- The bytes are those of a text. -/
def IsText (bytes : List UInt8) : Prop :=
  ∃ text : String, text.toUTF8.toList = bytes

/-- Six bits of a character are written as a byte that continues it. -/
theorem toNat_tail (n : Nat) : (UInt8.ofNat (n % 64 + 128)).toNat = n % 64 + 128 := by
  rw [UInt8.toNat_ofNat']
  omega

/-- They are what that byte spells. -/
theorem low_tail (n : Nat) : low (.ofNat (n % 64 + 128)) = n % 64 := by
  rw [low, toNat_tail]
  omega

section OneCharacter

variable {v : Nat}

/-- A character of seven bits is one byte. -/
theorem spells_one (h : v ≤ 127) : Spells [.ofNat v] v := by
  have hv : (UInt8.ofNat v).toNat = v := by
    rw [UInt8.toNat_ofNat']
    omega
  have hone : UInt8.ofNat v < 0x80 := by
    rw [lt_iff, hv]
    omega
  have hspells := Spells.one hone
  rwa [hv] at hspells

/-- A character of up to eleven bits is two bytes. -/
theorem spells_two (hlow : 127 < v) (h : v ≤ 2047) :
    Spells [.ofNat (v / 64 % 32 + 192), .ofNat (v % 64 + 128)] v := by
  have hlead : (UInt8.ofNat (v / 64 % 32 + 192)).toNat = v / 64 + 192 := by
    rw [UInt8.toNat_ofNat']
    omega
  have htwo : isPair (.ofNat (v / 64 % 32 + 192)) (.ofNat (v % 64 + 128)) = true := by
    rw [isPair_iff, hlead, toNat_tail]
    omega
  -- the bits of the two bytes are those of the character
  have hcode : (v / 64 + 192) % 32 * 64 + v % 64 = v := by omega
  have hspells := Spells.two htwo
  rwa [hlead, low_tail, hcode] at hspells

/-- A character of up to sixteen bits is three bytes. Their bounds rule out surrogates. -/
theorem spells_three (hlow : 2047 < v) (h : v ≤ 65535) (hvalid : v < 55296 ∨ 57343 < v) :
    Spells [.ofNat (v / 4096 % 16 + 224), .ofNat (v / 64 % 64 + 128), .ofNat (v % 64 + 128)] v := by
  have hlead : (UInt8.ofNat (v / 4096 % 16 + 224)).toNat = v / 4096 + 224 := by
    rw [UInt8.toNat_ofNat']
    omega
  have hthree : isTriple (.ofNat (v / 4096 % 16 + 224)) (.ofNat (v / 64 % 64 + 128))
      (.ofNat (v % 64 + 128)) = true := by
    rw [isTriple_iff, hlead, toNat_tail, toNat_tail]
    omega
  have hcode : (v / 4096 + 224) % 16 * 4096 + v / 64 % 64 * 64 + v % 64 = v := by omega
  have hspells := Spells.three hthree
  rwa [hlead, low_tail, low_tail, hcode] at hspells

/-- Any other character is four bytes. Their bounds rule out what is behind the last one. -/
theorem spells_four (hlow : 65535 < v) (h : v < 1114112) :
    Spells [.ofNat (v / 262144 % 8 + 240), .ofNat (v / 4096 % 64 + 128),
      .ofNat (v / 64 % 64 + 128), .ofNat (v % 64 + 128)] v := by
  have hlead : (UInt8.ofNat (v / 262144 % 8 + 240)).toNat = v / 262144 + 240 := by
    rw [UInt8.toNat_ofNat']
    omega
  have hfour : isQuadruple (.ofNat (v / 262144 % 8 + 240)) (.ofNat (v / 4096 % 64 + 128))
      (.ofNat (v / 64 % 64 + 128)) (.ofNat (v % 64 + 128)) = true := by
    rw [isQuadruple_iff, hlead, toNat_tail, toNat_tail, toNat_tail]
    omega
  have hcode : (v / 262144 + 240) % 8 * 262144 + v / 4096 % 64 * 4096 + v / 64 % 64 * 64 + v % 64 =
      v := by omega
  have hspells := Spells.four hfour
  rwa [hlead, low_tail, low_tail, low_tail, hcode] at hspells

/-- The bytes that a character is written as are that character. -/
theorem spells_utf8EncodeChar (c : Char) : Spells (String.utf8EncodeChar c) c.val.toNat := by
  have hvalid : c.val.toNat < 55296 ∨ 57343 < c.val.toNat ∧ c.val.toNat < 1114112 := c.valid
  unfold String.utf8EncodeChar
  dsimp only
  split
  · next hone => exact spells_one hone
  · next hone =>
    split
    · next htwo => exact spells_two (by omega) htwo
    · next htwo =>
      split
      · next hthree => exact spells_three (by omega) hthree (by omega)
      · next hthree => exact spells_four (by omega) (by omega)

/-- They are decoded to it, whatever follows them. -/
theorem decode_utf8EncodeChar_append (c : Char) (rest : List UInt8) :
    decode (String.utf8EncodeChar c ++ rest) = (c :: (decode rest).1, (decode rest).2) := by
  rw [decode_spelled (spells_utf8EncodeChar c), push, ← Char.toNat, Char.ofNat_toNat]

/-- A line feed is a byte of its own, and no other character has that byte. -/
theorem count_utf8EncodeChar (c : Char) :
    (String.utf8EncodeChar c).count 0x0A = [c].count '\n' := by
  have hcount := count_spelled (spells_utf8EncodeChar c)
  rwa [← Char.toNat, Char.ofNat_toNat] at hcount

end OneCharacter

section Spelled

variable {spelled : List UInt8} {code : Nat}

/-- What some bytes spell is the number of a character, and no surrogate. -/
theorem Spells.isValidChar (h : Spells spelled code) : code.isValidChar := by
  cases h with
  | one h =>
    rw [lt_iff] at h
    exact .inl (by omega)
  | two h =>
    rw [isPair_iff] at h
    unfold low
    exact .inl (by omega)
  | three h =>
    rw [isTriple_iff] at h
    unfold low
    rw [Nat.isValidChar]
    omega
  | four h =>
    rw [isQuadruple_iff] at h
    unfold low
    rw [Nat.isValidChar]
    omega

theorem Spells.toNat_val_ofNat (h : Spells spelled code) : (Char.ofNat code).val.toNat = code := by
  rw [Char.ofNat, dif_pos h.isValidChar]
  rfl

theorem ofNat_eq_of_toNat {b : UInt8} {n : Nat} (h : b.toNat = n) : UInt8.ofNat n = b := by
  rw [← h, UInt8.ofNat_toNat]

/-- The bytes that spell a character are those that it is written as. -/
theorem utf8EncodeChar_of_spells (h : Spells spelled code) :
    String.utf8EncodeChar (Char.ofNat code) = spelled := by
  have hcode := h.toNat_val_ofNat
  unfold String.utf8EncodeChar
  dsimp only
  rw [hcode]
  -- the number of bytes follows from the bounds of the number
  cases h with
  | one h =>
    rw [lt_iff] at h
    rw [if_pos (by omega), UInt8.ofNat_toNat]
  | @two a b h =>
    rw [isPair_iff] at h
    unfold low
    rw [if_neg (by omega), if_pos (by omega)]
    rw [ofNat_eq_of_toNat (b := a) (by omega), ofNat_eq_of_toNat (b := b) (by omega)]
  | @three a b c h =>
    rw [isTriple_iff] at h
    unfold low
    rw [if_neg (by omega), if_neg (by omega), if_pos (by omega)]
    rw [ofNat_eq_of_toNat (b := a) (by omega), ofNat_eq_of_toNat (b := b) (by omega),
      ofNat_eq_of_toNat (b := c) (by omega)]
  | @four a b c d h =>
    rw [isQuadruple_iff] at h
    unfold low
    rw [if_neg (by omega), if_neg (by omega), if_neg (by omega)]
    rw [ofNat_eq_of_toNat (b := a) (by omega), ofNat_eq_of_toNat (b := b) (by omega),
      ofNat_eq_of_toNat (b := c) (by omega), ofNat_eq_of_toNat (b := d) (by omega)]

end Spelled

/-! ## Texts -/

/-- The bytes of characters one after the other are decoded to those characters, whatever follows
them. -/
theorem decode_flatMap_append (chars : List Char) (rest : List UInt8) :
    decode (chars.flatMap String.utf8EncodeChar ++ rest) =
      (chars ++ (decode rest).1, (decode rest).2) := by
  induction chars with
  | nil => rfl
  | cons c chars ih =>
    rw [List.flatMap_cons, List.append_assoc, decode_utf8EncodeChar_append, ih]
    rfl

theorem decode_flatMap (chars : List Char) :
    decode (chars.flatMap String.utf8EncodeChar) = (chars, []) := by
  have h := decode_flatMap_append chars []
  rwa [List.append_nil, decode, List.append_nil] at h

/-- Decoding takes the bytes of characters, and leaves the others over. -/
theorem flatMap_decode_append (bytes : List UInt8) :
    (decode bytes).1.flatMap String.utf8EncodeChar ++ (decode bytes).2 = bytes := by
  induction hlength : bytes.length using Nat.strongRecOn generalizing bytes with
  | ind length ih =>
    rcases exists_spelled_or_stop bytes with ⟨spelled, code, rest, hspells, rfl⟩ | hstop
    · have hshorter : rest.length < length := by
        have hsome := List.length_pos_iff.2 hspells.ne_nil
        rw [← hlength, List.length_append]
        omega
      rw [decode_spelled hspells, push, List.flatMap_cons, utf8EncodeChar_of_spells hspells,
        List.append_assoc, ih rest.length hshorter rest rfl]
    · rw [hstop]
      rfl

/-- Bytes of characters have the line feeds of the characters. -/
theorem count_flatMap (chars : List Char) :
    (chars.flatMap String.utf8EncodeChar).count 0x0A = chars.count '\n' := by
  induction chars with
  | nil => rfl
  | cons c chars ih =>
    rw [List.flatMap_cons, List.count_append, count_utf8EncodeChar, ih, ← List.count_append,
      List.singleton_append]

/-- A list of bytes is taken from an array from some position on. -/
theorem toList_loop (bytes : ByteArray) (i : Nat) (taken : List UInt8) :
    ByteArray.toList.loop bytes i taken = taken.reverse ++ bytes.data.toList.drop i := by
  induction i, taken using ByteArray.toList.loop.induct bytes with
  | case1 i taken h ih =>
    have hdata : i < bytes.data.toList.length := h
    rw [ByteArray.toList.loop, if_pos h, ih, List.drop_eq_getElem_cons hdata]
    simp [ByteArray.get!, h]
  | case2 i taken h =>
    rw [ByteArray.toList.loop, if_neg h, List.drop_eq_nil_of_le (Nat.le_of_not_lt h)]
    simp

/-- The bytes of a text are those of its characters one after the other. -/
theorem toList_toUTF8 (text : String) :
    text.toUTF8.toList = text.toList.flatMap String.utf8EncodeChar := by
  have hdata : text.toUTF8.data.toList = text.toList.flatMap String.utf8EncodeChar := by
    rw [String.toUTF8_eq_toByteArray, ← String.utf8Encode_toList, List.utf8Encode,
      List.toList_data_toByteArray]
  rw [ByteArray.toList, toList_loop, hdata]
  rfl

/-- The bytes of a text are decoded to that text. -/
theorem decode?_toUTF8 (text : String) : decode? text.toUTF8.toList = some text := by
  rw [decode?, toList_toUTF8, decode_flatMap]
  dsimp only
  rw [String.ofList_toList]

/-- Some bytes are decoded to a text exactly if they are the bytes of that text. -/
theorem decode?_eq_some_iff_toUTF8 {bytes : List UInt8} {text : String} :
    decode? bytes = some text ↔ text.toUTF8.toList = bytes := by
  constructor
  · intro h
    have htaken := flatMap_decode_append bytes
    rw [decode?_eq_some_iff.1 h, List.append_nil] at htaken
    rw [toList_toUTF8, htaken]
  · rintro rfl
    exact decode?_toUTF8 text

theorem isText_iff_decode? {bytes : List UInt8} :
    IsText bytes ↔ ∃ text, decode? bytes = some text :=
  exists_congr fun _ => decode?_eq_some_iff_toUTF8.symm

/-- Decoding stops on the line that the longest text of the bytes ends on. -/
theorem exists_longestText (bytes : List UInt8) :
    ∃ text, LongestText bytes text ∧ stopLine bytes = text.count 0x0A + 1 := by
  refine ⟨(decode bytes).1.flatMap String.utf8EncodeChar,
    ⟨⟨_, flatMap_decode_append bytes⟩, ?_, ?_⟩, by rw [stopLine, count_flatMap]⟩
  · refine ⟨String.ofList (decode bytes).1, decode?_eq_some_iff.2 ?_⟩
    rw [decode_flatMap, String.toList_ofList]
  · rintro other decoded ⟨rest, rfl⟩ hother
    -- behind another text decoding goes on, and takes at least that text
    rw [decode?_eq_some_iff_toUTF8, toList_toUTF8] at hother
    rw [← hother, decode_flatMap_append, List.flatMap_append, List.length_append]
    omega

end LayeredFlags.Utf8
