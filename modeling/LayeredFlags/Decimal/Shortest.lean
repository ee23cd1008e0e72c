import LayeredFlags.Decimal.Binary64
/-!
# Shortest Decimal Text of a Double

A finite double is written with the fewest digits that are read back as the same double, and
of those the nearest. The notation is always positional, with at least one digit after the
point.
-/

namespace LayeredFlags.Binary64

/-- `digits * 10 ^ exponent`, in quarters of a unit, as a quotient. -/
def quarters (digits : Nat) (exponent : Int) : Nat × Nat :=
  if 0 ≤ exponent then (4 * digits * Nat.pow 10 exponent.toNat * one, 1)
  else (4 * digits * one, Nat.pow 10 (-exponent).toNat)

/-- `digits * 10 ^ exponent` is read back as the given magnitude: it lies between the
midpoints to the neighbours, which count if the significand is even. -/
def readsBack (units : Nat) (digits : Nat) (exponent : Int) : Bool :=
  let step := spacing units
  -- Below a power of two the neighbour is half as far as above it.
  let below :=
    if Nat.pow 2 53 ≤ units ∧ units = Nat.pow 2 units.log2 then step else 2 * step
  let (num, den) := quarters digits exponent
  let low := (4 * units - below) * den
  let high := (4 * units + 2 * step) * den
  if units / step % 2 = 0 then low ≤ num && num ≤ high else low < num && num < high

/-- The multiple of `10 ^ exponent` nearest to a magnitude among the two around it that are
read back as it. Of two at the same distance the greater one is taken. -/
def nearestOnGrid (units : Nat) (exponent : Int) : Option Nat :=
  let (num, den) := quarters 1 exponent
  let floor := 4 * units * den / num
  let toFloor := 4 * units * den - floor * num
  match readsBack units floor exponent, readsBack units (floor + 1) exponent with
  | true, true => some (if 2 * toFloor < num then floor else floor + 1)
  | true, false => some floor
  | false, true => some (floor + 1)
  | false, false => none

/-- The digits and the exponent of the coarsest grid, from the given one on, that has a point
which is read back as a magnitude. The first argument bounds the number of grids. -/
def coarsest (units : Nat) : Nat → Int → Nat × Int
  | 0, exponent => (0, exponent)
  | grids + 1, exponent =>
    match nearestOnGrid units exponent with
    | some digits => (digits, exponent)
    | none => coarsest units grids (exponent - 1)

/-- The digits and the exponent of the shortest decimal that is read back as a magnitude. -/
def shortest (units : Nat) : Nat × Int :=
  -- No double reaches `10 ^ 309`, and no two are closer than `10 ^ (-324)`.
  if units = 0 then (0, 0) else coarsest units 700 309

/-- `digits * 10 ^ exponent` in positional notation. -/
def positional (digits : Nat) (exponent : Int) : String :=
  let written := (Nat.toDigits 10 digits)
  if 0 ≤ exponent then
    String.ofList (written ++ List.replicate exponent.toNat '0' ++ ['.', '0'])
  else
    let places := (-exponent).toNat
    let padded := List.replicate (places + 1 - written.length) '0' ++ written
    let whole := padded.length - places
    String.ofList (padded.take whole ++ '.' :: padded.drop whole)

/-- The text of a double. -/
def toText : Binary64 → String
  | .nan => "NaN"
  | .infinity negative => if negative then "-inf" else "inf"
  | .finite negative units =>
    let (digits, exponent) := shortest units
    (if negative then "-" else "") ++ positional digits exponent

end LayeredFlags.Binary64
