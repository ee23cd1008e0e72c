/-!
# UTF-8

`decode` reads characters from bytes until the bytes end or go on with none. What it leaves
over is empty exactly when all the bytes are UTF-8.
-/

namespace LayeredFlags.Utf8

/-- The byte continues a character. -/
def isTail (b : UInt8) : Bool :=
  0x80 ≤ b && b ≤ 0xBF

/-- The two bytes are a character. -/
def isPair (a b : UInt8) : Bool :=
  0xC2 ≤ a && a ≤ 0xDF && isTail b

/-- The three bytes are a character. Those of surrogates and those that two bytes could
stand for are none. -/
def isTriple (a b c : UInt8) : Bool :=
  isTail c &&
    (if a = 0xE0 then 0xA0 ≤ b && b ≤ 0xBF
    else if a = 0xED then 0x80 ≤ b && b ≤ 0x9F
    else 0xE1 ≤ a && a ≤ 0xEF && isTail b)

/-- The four bytes are a character. Those beyond the last character and those that three
bytes could stand for are none. -/
def isQuadruple (a b c d : UInt8) : Bool :=
  isTail c && isTail d &&
    (if a = 0xF0 then 0x90 ≤ b && b ≤ 0xBF
    else if a = 0xF4 then 0x80 ≤ b && b ≤ 0x8F
    else 0xF1 ≤ a && a ≤ 0xF3 && isTail b)

/-- The number that the last six bits of a byte spell. -/
def low (b : UInt8) : Nat :=
  b.toNat % 64

/-- Put a character in front of what was decoded. -/
def push (code : Nat) (decoded : List Char × List UInt8) : List Char × List UInt8 :=
  (Char.ofNat code :: decoded.1, decoded.2)

/-- The characters that the bytes start with, as many as there are, and the bytes left. -/
def decode : List UInt8 → List Char × List UInt8
  | [] => ([], [])
  | a :: rest =>
    if a < 0x80 then push a.toNat (decode rest)
    else match rest with
      | [] => ([], [a])
      | b :: rest =>
        if isPair a b then push (a.toNat % 32 * 64 + low b) (decode rest)
        else match rest with
          | [] => ([], [a, b])
          | c :: rest =>
            if isTriple a b c then
              push (a.toNat % 16 * 4096 + low b * 64 + low c) (decode rest)
            else match rest with
              | [] => ([], [a, b, c])
              | d :: rest =>
                if isQuadruple a b c d then
                  push (a.toNat % 8 * 262144 + low b * 4096 + low c * 64 + low d)
                    (decode rest)
                else ([], a :: b :: c :: d :: rest)

/-- The text of some bytes, if they are UTF-8. -/
def decode? (bytes : List UInt8) : Option String :=
  match decode bytes with
  | (chars, []) => some (String.ofList chars)
  | _ => none

/-- The line, counted from one, that the decoding of some bytes stops on. -/
def stopLine (bytes : List UInt8) : Nat :=
  (decode bytes).1.count '\n' + 1

end LayeredFlags.Utf8
