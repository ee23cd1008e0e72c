/-!
# Hexadecimal Digits and Escapes

Hexadecimal digits are written in lower case, and read in either case. In a quoted text, an
escape gives a character by such digits, or by one letter.

A scanning function takes the text from some place on. It returns what stands there and the
rest of the text, or nothing if something else stands there.
-/

namespace LayeredFlags.Text

/-! ## Digits -/

/-- The hexadecimal digit of a number below sixteen. -/
def hexDigit (n : Nat) : Char :=
  if n < 10 then Char.ofNat (0x30 + n) else Char.ofNat (0x57 + n)

/-- The two hexadecimal digits of every byte. -/
def hexBytes (bytes : List UInt8) : String :=
  String.ofList <| bytes.flatMap fun byte =>
    [hexDigit (byte.toNat / 16), hexDigit (byte.toNat % 16)]

/-- The hexadecimal digits of a number, without leading zeros. -/
def hexNumber (n : Nat) : String :=
  String.ofList (Nat.toDigits 16 n)

/-- The value of a hexadecimal digit of either case. -/
def hexValue? (c : Char) : Option Nat :=
  if '0' ≤ c ∧ c ≤ '9' then some (c.toNat - 0x30)
  else if 'a' ≤ c ∧ c ≤ 'f' then some (c.toNat - 0x57)
  else if 'A' ≤ c ∧ c ≤ 'F' then some (c.toNat - 0x37)
  else none

/-- The number that some digits of a base spell, after the digits of a given number. -/
def numberFrom? (base : Nat) (number : Nat) : List Char → Option Nat
  | [] => some number
  | c :: rest =>
    match hexValue? c with
    | some digit => if digit < base then numberFrom? base (base * number + digit) rest else none
    | none => none

/-- The character that some hexadecimal digits name. -/
def scalar? (digits : List Char) : Option Char :=
  match numberFrom? 16 0 digits with
  | some n => if n < 0xD800 ∨ (0xDFFF < n ∧ n < 0x110000) then some (Char.ofNat n) else none
  | none => none

/-! ## Scanning -/

/-- A function that reads something at the start of a text and returns the rest. -/
abbrev Scan (α : Type) := List Char → Option (α × List Char)

/-- Put a character in front of what was read. -/
def pushChar (c : Char) : Option (List Char × List Char) → Option (List Char × List Char)
  | none => none
  | some (read, rest) => some (c :: read, rest)

/-- The character that a backslash and one letter stand for. -/
def shortEscape? (c : Char) : Option Char :=
  if c = 'b' then some '\x08'
  else if c = 't' then some '\t'
  else if c = 'n' then some '\n'
  else if c = 'f' then some '\x0c'
  else if c = 'r' then some '\r'
  else if c = '\x22' ∨ c = '\\' then some c
  else none

/-- Put the escaped character in front of what was read. -/
def pushEscaped (escaped : Option Char) (read : Option (List Char × List Char)) :
    Option (List Char × List Char) :=
  match escaped with
  | some c => pushChar c read
  | none => none

end LayeredFlags.Text
