import LayeredFlags.Json.Basic
/-!
# JSON Codecs

A type has a codec if its values are written as JSON values and read back from them. The
codecs of words, numbers and lists stand here.
-/

namespace LayeredFlags

/-- Values that are written as JSON and read back. -/
class JsonCodec (α : Type) where
  /-- The JSON value that a value is written as. -/
  encode : α → Json
  /-- The value that a JSON value is read as, if it is one. -/
  decode? : Json → Option α

namespace JsonCodec

variable {α : Type}

/-- The value of a field that has to be there. -/
def required? [JsonCodec α] (record : List (String × Json)) (name : String) : Option α :=
  (record.lookup name).bind decode?

/-- The value of a field that may be left out, in favour of the given value. -/
def optional? [JsonCodec α] (record : List (String × Json)) (name : String) (absent : α) :
    Option α :=
  match record.lookup name with
  | none => some absent
  | some json => decode? json

instance : JsonCodec String where
  encode text := .string text
  decode?
    | .string text => some text
    | _ => none

/-- A signed number of 64 bits. -/
instance : JsonCodec Int64 where
  encode n := .integer n.toInt
  decode?
    | .integer n =>
      if Int64.minValue.toInt ≤ n ∧ n ≤ Int64.maxValue.toInt then some (Int64.ofInt n) else none
    | _ => none

/-- A count, which is read only if it is below `2 ^ 64`. -/
instance : JsonCodec Nat where
  encode n := .integer n
  decode?
    | .integer n => if 0 ≤ n ∧ n.toNat < UInt64.size then some n.toNat else none
    | _ => none

instance [JsonCodec α] : JsonCodec (List α) where
  encode items := .array (items.map encode)
  decode?
    | .array items => items.mapM decode?
    | _ => none

end JsonCodec

end LayeredFlags
