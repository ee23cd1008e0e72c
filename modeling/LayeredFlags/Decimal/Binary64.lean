/-!
# Double-Precision Numbers

The magnitude of a finite double is a whole multiple of the smallest positive one, which is
`2 ^ (-1074)`. A decimal number is rounded to the nearest double, a tie to the even one.
-/

namespace LayeredFlags

/-- A number in the binary interchange format of 64 bits. -/
inductive Binary64 where
  /-- Not a number. -/
  | nan
  /-- An infinity. -/
  | infinity (negative : Bool)
  /-- The number of the given magnitude, counted in units of `2 ^ (-1074)`. -/
  | finite (negative : Bool) (units : Nat)
deriving DecidableEq, Repr

namespace Binary64

/-- The number of units in one. -/
def one : Nat := Nat.pow 2 1074

/-- The distance, in units, from a magnitude to the next greater one. -/
def spacing (units : Nat) : Nat :=
  Nat.pow 2 (units.log2 - 52)

/-- The quotient rounded to the nearest whole number, a tie to the even one. -/
def roundDiv (num den : Nat) : Nat :=
  let quotient := num / den
  let twice := 2 * (num % den)
  if twice < den then quotient
  else if den < twice then quotient + 1
  else quotient + quotient % 2

/-- The magnitude, in units, that is nearest to a quotient. -/
def roundUnits (num den : Nat) : Nat :=
  let step := spacing (num / den)
  roundDiv num (den * step) * step

/-- The number of the given magnitude, which is infinite if the format does not reach it. -/
def ofUnits (negative : Bool) (units : Nat) : Binary64 :=
  if units < Nat.pow 2 1024 * one then .finite negative units else .infinity negative

/-- The double nearest to `mantissa * 10 ^ exponent`. -/
def ofDecimal (negative : Bool) (mantissa : Nat) (exponent : Int) : Binary64 :=
  let digits : Int := (Nat.toDigits 10 mantissa).length
  if mantissa = 0 ∨ digits + exponent < -330 then .finite negative 0
  else if 310 < digits + exponent then .infinity negative
  else if 0 ≤ exponent then
    ofUnits negative (roundUnits (mantissa * Nat.pow 10 exponent.toNat * one) 1)
  else ofUnits negative (roundUnits (mantissa * one) (Nat.pow 10 (-exponent).toNat))

end Binary64

end LayeredFlags
