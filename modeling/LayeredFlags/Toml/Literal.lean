import LayeredFlags.Decimal.Binary64
import LayeredFlags.Text.Hex
/-!
# TOML Values and Literals

The value of a document is a table. Tables keep the order of their keys. Nothing is kept of
a date or a time but that it is one.

Literals are the values that hold no other values: strings, numbers, truth values, dates and
times. Each is scanned at the start of a text, and there is nothing if the text is no TOML
from there on.
-/

namespace LayeredFlags.Toml

/-- A value of a TOML document. -/
inductive Value where
  /-- A string. -/
  | string (text : String)
  /-- A whole number of 64 bits. -/
  | integer (number : Int64)
  /-- A number with a fraction or an exponent, an infinity, or no number. -/
  | float (number : Binary64)
  /-- A truth value. -/
  | boolean (value : Bool)
  /-- A date, a time, or both. -/
  | datetime
  /-- A list of values. -/
  | array (items : List Value)
  /-- Values under distinct keys. -/
  | table (fields : List (String × Value))
  /-- The tables that repeated headers have opened, in order. -/
  | tables (elements : List (List (String × Value)))

/-! ## Literals -/

open Text

/-- The character may stand in a comment and in a string over several lines: a tab, or no
control character. -/
def isPlain (c : Char) : Bool :=
  c == '\t' || (0x20 ≤ c.toNat && c.toNat ≠ 0x7F)

/-- Read a string with escapes from after its opening quote. -/
def basicString : List Char → Option (List Char × List Char)
  | [] => none
  | '\x22' :: rest => some ([], rest)
  | '\\' :: 'u' :: a :: b :: c :: d :: rest =>
    pushEscaped (scalar? [a, b, c, d]) (basicString rest)
  | '\\' :: 'U' :: a :: b :: c :: d :: e :: f :: g :: h :: rest =>
    pushEscaped (scalar? [a, b, c, d, e, f, g, h]) (basicString rest)
  | '\\' :: c :: rest => pushEscaped (shortEscape? c) (basicString rest)
  | c :: rest => if isPlain c then pushChar c (basicString rest) else none

/-- Read a string without escapes from after its opening quote. -/
def literalString : List Char → Option (List Char × List Char)
  | [] => none
  | '\x27' :: rest => some ([], rest)
  | c :: rest => if isPlain c then pushChar c (literalString rest) else none

/-- The text from after its spaces and tabs on. -/
def skipSpaces (text : List Char) : List Char :=
  text.dropWhile fun c => c == ' ' || c == '\t'

/-- The text starts with a line end, possibly after spaces and tabs. -/
def startsLineEnd (text : List Char) : Bool :=
  match skipSpaces text with
  | '\n' :: _ => true
  | '\r' :: '\n' :: _ => true
  | _ => false

/-- Read a string with escapes over several lines. A backslash at the end of a line skips
the blanks and line ends that follow it, as the flag tells. A line end is read as a line
feed. Up to two quotes may stand right before the closing ones. -/
def basicLines (skipping : Bool) : List Char → Option (List Char × List Char)
  | [] => none
  | '\r' :: '\n' :: rest =>
    if skipping then basicLines true rest else pushChar '\n' (basicLines false rest)
  | '\n' :: rest =>
    if skipping then basicLines true rest else pushChar '\n' (basicLines false rest)
  | '\x22' :: '\x22' :: '\x22' :: '\x22' :: '\x22' :: rest => some (['\x22', '\x22'], rest)
  | '\x22' :: '\x22' :: '\x22' :: '\x22' :: rest => some (['\x22'], rest)
  | '\x22' :: '\x22' :: '\x22' :: rest => some ([], rest)
  | '\\' :: 'u' :: a :: b :: c :: d :: rest =>
    pushEscaped (scalar? [a, b, c, d]) (basicLines false rest)
  | '\\' :: 'U' :: a :: b :: c :: d :: e :: f :: g :: h :: rest =>
    pushEscaped (scalar? [a, b, c, d, e, f, g, h]) (basicLines false rest)
  | '\\' :: c :: rest =>
    if startsLineEnd (c :: rest) then basicLines true rest
    else pushEscaped (shortEscape? c) (basicLines false rest)
  | c :: rest =>
    if skipping && (c == ' ' || c == '\t') then basicLines true rest
    else if isPlain c then pushChar c (basicLines false rest)
    else none

/-- Read a string without escapes over several lines. -/
def literalLines : List Char → Option (List Char × List Char)
  | [] => none
  | '\r' :: '\n' :: rest => pushChar '\n' (literalLines rest)
  | '\n' :: rest => pushChar '\n' (literalLines rest)
  | '\x27' :: '\x27' :: '\x27' :: '\x27' :: '\x27' :: rest => some (['\x27', '\x27'], rest)
  | '\x27' :: '\x27' :: '\x27' :: '\x27' :: rest => some (['\x27'], rest)
  | '\x27' :: '\x27' :: '\x27' :: rest => some ([], rest)
  | c :: rest => if isPlain c then pushChar c (literalLines rest) else none

/-- The text without a line end at its start. -/
def dropLineEnd : List Char → List Char
  | '\n' :: rest => rest
  | '\r' :: '\n' :: rest => rest
  | text => text

/-- Read a string of any of the four kinds. -/
def anyString : Scan (List Char)
  | '\x22' :: '\x22' :: '\x22' :: rest => basicLines false (dropLineEnd rest)
  | '\x22' :: rest => basicString rest
  | '\x27' :: '\x27' :: '\x27' :: rest => literalLines (dropLineEnd rest)
  | '\x27' :: rest => literalString rest
  | _ => none

/-- Read digits of a base from after the first one. Single underscores may stand between
digits. -/
def moreDigits (isDigit : Char → Bool) : List Char → List Char × List Char
  | '_' :: c :: rest =>
    if isDigit c then
      let (read, rest) := moreDigits isDigit rest
      (c :: read, rest)
    else ([], '_' :: c :: rest)
  | c :: rest =>
    if isDigit c then
      let (read, rest) := moreDigits isDigit rest
      (c :: read, rest)
    else ([], c :: rest)
  | [] => ([], [])

/-- Read one or more digits of a base. -/
def someDigits (isDigit : Char → Bool) : Scan (List Char)
  | c :: rest =>
    if isDigit c then
      let (read, rest) := moreDigits isDigit rest
      some (c :: read, rest)
    else none
  | [] => none

/-- Drop a sign, and tell whether it is a minus. -/
def sign : List Char → Bool × List Char
  | '+' :: rest => (false, rest)
  | '-' :: rest => (true, rest)
  | text => (false, text)

/-- A whole number, if it has 64 bits. -/
def integer? (negative : Bool) (magnitude : Nat) : Option Value :=
  let number : Int := if negative then -magnitude else magnitude
  if Int64.minValue.toInt ≤ number ∧ number ≤ Int64.maxValue.toInt then
    some (.integer (Int64.ofInt number))
  else none

/-- A whole number that is written with the digits of a base. -/
def integerOf (base : Nat) (negative : Bool) (digits : List Char) : Option Value :=
  match numberFrom? base 0 digits with
  | some magnitude => integer? negative magnitude
  | none => none

/-- Read the digits of a whole number with a prefix for its base. -/
def basedInteger (base : Nat) (text : List Char) : Option (Value × List Char) :=
  match someDigits (fun c => (hexValue? c).any (· < base)) text with
  | some (digits, rest) => (integerOf base false digits).map (·, rest)
  | none => none

/-- Read the whole part of a decimal number: a zero, or digits that start with no zero. -/
def wholePart : Scan (List Char)
  | '0' :: rest => some (['0'], rest)
  | text => someDigits Char.isDigit text

/-- Read an exponent, if there is one. Nothing follows from an `e` without digits. -/
def exponentPart : List Char → Option (Option Int × List Char)
  | c :: rest =>
    if c = 'e' ∨ c = 'E' then
      let (negative, rest) := sign rest
      match someDigits Char.isDigit rest with
      | some (digits, rest) =>
        match numberFrom? 10 0 digits with
        | some n => some (some (if negative then -(n : Int) else n), rest)
        | none => none
      | none => none
    else some (none, c :: rest)
  | [] => some (none, [])

/-- Read a fraction, if there is one. Nothing follows from a point without digits. -/
def fractionPart : List Char → Option (Option (List Char) × List Char)
  | '.' :: rest =>
    match someDigits Char.isDigit rest with
    | some (digits, rest) => some (some digits, rest)
    | none => none
  | text => some (none, text)

/-- The number of given sign, digits before and after the point, and exponent. A positive
number that is too great for a double is refused. -/
def float? (negative : Bool) (whole fraction : List Char) (exponent : Int) : Option Value :=
  match numberFrom? 10 0 (whole ++ fraction) with
  | some mantissa =>
    let number := Binary64.ofDecimal negative mantissa (exponent - fraction.length)
    if number = .infinity false then none else some (.float number)
  | none => none

/-- Read a number without a prefix, after its sign. -/
def decimal (negative : Bool) (text : List Char) : Option (Value × List Char) := do
  let (whole, rest) ← wholePart text
  let (fraction, rest) ← fractionPart rest
  let (exponent, rest) ← exponentPart rest
  match fraction, exponent with
  | none, none => return (← integerOf 10 negative whole, rest)
  | _, _ => return (← float? negative whole (fraction.getD []) (exponent.getD 0), rest)

/-- Read a number. -/
def number (text : List Char) : Option (Value × List Char) :=
  match text with
  | '0' :: 'x' :: rest => basedInteger 16 rest
  | '0' :: 'o' :: rest => basedInteger 8 rest
  | '0' :: 'b' :: rest => basedInteger 2 rest
  | _ =>
    let (negative, rest) := sign text
    match rest with
    | 'i' :: 'n' :: 'f' :: rest => some (.float (.infinity negative), rest)
    | 'n' :: 'a' :: 'n' :: rest => some (.float .nan, rest)
    | _ => decimal negative rest

/-- The number that two decimal digits spell. -/
def twoDigits? (a b : Char) : Option Nat :=
  if a.isDigit && b.isDigit then numberFrom? 10 0 [a, b] else none

/-- The two digits spell a number of the given range. -/
def twoDigitsIn (low high : Nat) (a b : Char) : Bool :=
  match twoDigits? a b with
  | some n => low ≤ n && n ≤ high
  | none => false

/-- The number of days of a month. -/
def daysIn (year month : Nat) : Nat :=
  if month = 2 then
    if year % 4 = 0 ∧ (year % 100 ≠ 0 ∨ year % 400 = 0) then 29 else 28
  else if month = 4 ∨ month = 6 ∨ month = 9 ∨ month = 11 then 30
  else 31

/-- Read a date and return the rest. -/
def date : List Char → Option (List Char)
  | a :: b :: c :: d :: '-' :: e :: f :: '-' :: g :: h :: rest => do
    let century ← twoDigits? a b
    let year := 100 * century + (← twoDigits? c d)
    let month ← twoDigits? e f
    if 1 ≤ month ∧ month ≤ 12 ∧ twoDigitsIn 1 (daysIn year month) g h then some rest
    else none
  | _ => none

/-- Drop the fraction of a second, if there is one. -/
def dropSecondFraction : List Char → List Char
  | '.' :: c :: rest =>
    if c.isDigit then rest.dropWhile Char.isDigit else '.' :: c :: rest
  | text => text

/-- Read a time and return the rest. -/
def time : List Char → Option (List Char)
  | a :: b :: ':' :: c :: d :: ':' :: e :: f :: rest =>
    if twoDigitsIn 0 23 a b && twoDigitsIn 0 59 c d && twoDigitsIn 0 60 e f then
      some (dropSecondFraction rest)
    else none
  | _ => none

/-- Drop the offset of a time from the universal one, if there is one. -/
def dropOffset : List Char → List Char
  | 'Z' :: rest => rest
  | 'z' :: rest => rest
  | s :: a :: b :: ':' :: c :: d :: rest =>
    if (s == '+' || s == '-') && twoDigitsIn 0 23 a b && twoDigitsIn 0 59 c d then rest
    else s :: a :: b :: ':' :: c :: d :: rest
  | text => text

/-- Read a date, a time, or both, and return the rest. -/
def datetime (text : List Char) : Option (List Char) :=
  match date text with
  | none => time text
  | some (c :: rest) =>
    if c = 'T' ∨ c = 't' ∨ c = ' ' then
      match time rest with
      | some rest => some (dropOffset rest)
      | none => some (c :: rest)
    else some (c :: rest)
  | some [] => some []

/-- Read a value that holds no other values. -/
def scalar (text : List Char) : Option (Value × List Char) :=
  match text with
  | '\x22' :: _ => (anyString text).map fun (read, rest) => (.string (String.ofList read), rest)
  | '\x27' :: _ => (anyString text).map fun (read, rest) => (.string (String.ofList read), rest)
  | 't' :: 'r' :: 'u' :: 'e' :: rest => some (.boolean true, rest)
  | 'f' :: 'a' :: 'l' :: 's' :: 'e' :: rest => some (.boolean false, rest)
  | _ =>
    match datetime text with
    | some rest => some (.datetime, rest)
    | none => number text

end LayeredFlags.Toml
