/-!
# Decimal Integers

A number of 64 bits is written with an optional sign and one or more digits. The digits are
taken one by one, and the first that is no digit or makes the number too great is reported.
-/

namespace LayeredFlags.Text

/-- Why a text is not the text of a number of 64 bits. -/
inductive IntegerError where
  /-- The text is empty. -/
  | empty
  /-- Something other than a digit stands in the text, or nothing follows a sign. -/
  | invalidDigit
  /-- The number is greater than any of 64 bits. -/
  | tooLarge
  /-- The number is smaller than any of 64 bits. -/
  | tooSmall
deriving DecidableEq, Repr

/-- The wording of an error. -/
def IntegerError.message : IntegerError → String
  | .empty => "cannot parse integer from empty string"
  | .invalidDigit => "invalid digit found in string"
  | .tooLarge => "number too large to fit in target type"
  | .tooSmall => "number too small to fit in target type"

/-- Read further digits of a magnitude, which has to stay below `limit`. -/
def readMagnitude (limit : Nat) (overflow : IntegerError) (magnitude : Nat) :
    List Char → Except IntegerError Nat
  | [] => .ok magnitude
  | c :: rest =>
    if c.isDigit then
      let next := 10 * magnitude + (c.toNat - 0x30)
      if next < limit then readMagnitude limit overflow next rest else .error overflow
    else .error .invalidDigit

/-- Read a number that is not negative. -/
def readPositive (digits : List Char) : Except IntegerError Int64 :=
  if digits.isEmpty then .error .invalidDigit
  else (readMagnitude (Nat.pow 2 63) .tooLarge 0 digits).map fun n => Int64.ofNat n

/-- Read the negative of a number. -/
def readNegative (digits : List Char) : Except IntegerError Int64 :=
  if digits.isEmpty then .error .invalidDigit
  else (readMagnitude (Nat.pow 2 63 + 1) .tooSmall 0 digits).map fun n => Int64.ofInt (-n)

/-- Read a number of 64 bits. -/
def readInt64 : List Char → Except IntegerError Int64
  | [] => .error .empty
  | '+' :: digits => readPositive digits
  | '-' :: digits => readNegative digits
  | digits => readPositive digits

end LayeredFlags.Text
