import LayeredFlags.Json.Basic
import LayeredFlags.Text.Hex
/-!
# Reading JSON

A text is read as a value if it is the text of one, with any blanks around it and between
its parts. Half of a surrogate pair is no character, so an escape for one of the halves
has to be followed by an escape for the other.
-/

namespace LayeredFlags.Json

namespace Reader

open Text

/-- The text from after its blanks on. -/
def skipBlanks (text : List Char) : List Char :=
  text.dropWhile fun c => c == ' ' || c == '\t' || c == '\n' || c == '\r'

/-! ## Strings -/

/-- The character that the two halves of a surrogate pair name, in hexadecimal digits. -/
def surrogates? (high low : List Char) : Option Char :=
  match numberFrom? 16 0 high, numberFrom? 16 0 low with
  | some high, some low =>
    if 0xD800 ≤ high ∧ high < 0xDC00 ∧ 0xDC00 ≤ low ∧ low < 0xE000 then
      some (Char.ofNat (0x10000 + 0x400 * (high - 0xD800) + (low - 0xDC00)))
    else none
  | _, _ => none

/-- The character that a backslash and the given one stand for. A slash may be escaped. -/
def escaped? (c : Char) : Option Char :=
  if c = '/' then some '/' else shortEscape? c

/-- Read a string from after its opening quote. -/
def stringEnd : List Char → Option (List Char × List Char)
  | [] => none
  | '\x22' :: rest => some ([], rest)
  | '\\' :: 'u' :: a :: b :: c :: d :: rest =>
    match scalar? [a, b, c, d] with
    | some named => pushChar named (stringEnd rest)
    | none =>
      match rest with
      | '\\' :: 'u' :: e :: f :: g :: h :: rest =>
        pushEscaped (surrogates? [a, b, c, d] [e, f, g, h]) (stringEnd rest)
      | _ => none
  | '\\' :: c :: rest => pushEscaped (escaped? c) (stringEnd rest)
  | c :: rest => if c.toNat < 0x20 then none else pushChar c (stringEnd rest)

/-- Read a string. -/
def stringText : Scan String
  | '\x22' :: rest => (stringEnd rest).map fun (read, rest) => (String.ofList read, rest)
  | _ => none

/-! ## Numbers -/

/-- Read one or more decimal digits. -/
def someDigits (text : List Char) : Option (List Char × List Char) :=
  let read := text.takeWhile Char.isDigit
  if read.isEmpty then none else some (read, text.dropWhile Char.isDigit)

/-- Read the whole part of a number: a zero, or digits that start with no zero. -/
def wholePart : Scan (List Char)
  | '0' :: rest => some (['0'], rest)
  | text => someDigits text

/-- Read a fraction, if there is one. Nothing follows from a point without digits. -/
def fractionPart : Scan (Option (List Char))
  | '.' :: rest => (someDigits rest).map fun (read, rest) => (some read, rest)
  | text => some (none, text)

/-- Drop the sign of an exponent, and tell whether it is a minus. -/
def exponentSign : List Char → Bool × List Char
  | '+' :: rest => (false, rest)
  | '-' :: rest => (true, rest)
  | text => (false, text)

/-- Read an exponent, if there is one. Nothing follows from an `e` without digits. -/
def exponentPart : Scan (Option Int)
  | c :: rest =>
    if c = 'e' ∨ c = 'E' then do
      let (negative, rest) := exponentSign rest
      let (read, rest) ← someDigits rest
      let magnitude ← numberFrom? 10 0 read
      return (some (if negative then -(magnitude : Int) else magnitude), rest)
    else some (none, c :: rest)
  | [] => some (none, [])

/-- Read a number from after its sign. A negative zero is not a whole number. -/
def numberAfter (negative : Bool) (text : List Char) : Option (Json × List Char) := do
  let (whole, rest) ← wholePart text
  let (fraction, rest) ← fractionPart rest
  let (exponent, rest) ← exponentPart rest
  let digits := fraction.getD []
  let magnitude ← numberFrom? 10 0 (whole ++ digits)
  let mantissa : Int := if negative then -magnitude else magnitude
  if fraction.isNone && exponent.isNone && !(negative && magnitude == 0) then
    return (.integer mantissa, rest)
  else
    return (.decimal mantissa (exponent.getD 0 - digits.length), rest)

/-- Read a number. -/
def number : Scan Json
  | '-' :: rest => numberAfter true rest
  | text => numberAfter false text

/-! ## Values -/

/-- Read the items of an array from after its opening bracket or a comma. The number bounds
the number of items. -/
def items (value : Scan Json) : Nat → Scan (List Json)
  | 0, _ => none
  | bound + 1, text => do
    let (item, rest) ← value (skipBlanks text)
    match skipBlanks rest with
    | ',' :: rest =>
      let (more, rest) ← items value bound rest
      return (item :: more, rest)
    | ']' :: rest => return ([item], rest)
    | _ => none

/-- Read an array from after its opening bracket. -/
def arrayEnd (value : Scan Json) : Scan Json := fun text =>
  match skipBlanks text with
  | ']' :: rest => some (.array [], rest)
  | text => (items value text.length text).map fun (read, rest) => (.array read, rest)

/-- Read a name, a colon and a value. -/
def field (value : Scan Json) : Scan (String × Json) := fun text => do
  let (name, rest) ← stringText (skipBlanks text)
  match skipBlanks rest with
  | ':' :: rest =>
    let (read, rest) ← value (skipBlanks rest)
    return ((name, read), rest)
  | _ => none

/-- Read the fields of an object from after its opening brace or a comma. The number bounds
the number of fields. -/
def fields (value : Scan Json) : Nat → Scan (List (String × Json))
  | 0, _ => none
  | bound + 1, text => do
    let (first, rest) ← field value text
    match skipBlanks rest with
    | ',' :: rest =>
      let (more, rest) ← fields value bound rest
      return (first :: more, rest)
    | '}' :: rest => return ([first], rest)
    | _ => none

/-- Read an object from after its opening brace. -/
def objectEnd (value : Scan Json) : Scan Json := fun text =>
  match skipBlanks text with
  | '}' :: rest => some (.object [], rest)
  | text => (fields value text.length text).map fun (read, rest) => (.object read, rest)

/-- Read a value that holds no other values. -/
def simple : Scan Json
  | 'n' :: 'u' :: 'l' :: 'l' :: rest => some (.null, rest)
  | 't' :: 'r' :: 'u' :: 'e' :: rest => some (.bool true, rest)
  | 'f' :: 'a' :: 'l' :: 's' :: 'e' :: rest => some (.bool false, rest)
  | '\x22' :: rest => (stringText ('\x22' :: rest)).map fun (read, rest) => (.string read, rest)
  | text => number text

/-- Read a value that is nested no deeper than the given number. -/
def value : Nat → Scan Json
  | 0, text => simple text
  | depth + 1, text =>
    match text with
    | '[' :: rest => arrayEnd (value depth) rest
    | '{' :: rest => objectEnd (value depth) rest
    | _ => simple text

end Reader

/-- The value of a text, if it is the text of one. -/
def parse? (text : String) : Option Json :=
  let chars := text.toList
  -- Every level of nesting takes up a character at least.
  match Reader.value chars.length (Reader.skipBlanks chars) with
  | some (read, rest) => if (Reader.skipBlanks rest).isEmpty then some read else none
  | none => none

end LayeredFlags.Json
