import LayeredFlags.Json.Printer
/-!
# Canonical JSON

The canonical text of a value is its compact text after the fields of every object have been
sorted by name. Names are compared by their UTF-16 code units. Numbers are expected to be
whole and short enough for a double.
-/

namespace LayeredFlags

/-- The UTF-16 code units of a character. -/
def Text.utf16Units (c : Char) : List Nat :=
  let n := c.toNat
  if n < 0x10000 then [n]
  else [0xD800 + (n - 0x10000) / 0x400, 0xDC00 + (n - 0x10000) % 0x400]

namespace Json

/-- The code units that a field is sorted by. -/
def sortKey (field : String × Json) : List Nat :=
  field.1.toList.flatMap Text.utf16Units

/-- The fields by ascending name. -/
def sortFields (fields : List (String × Json)) : List (String × Json) :=
  fields.mergeSort fun a b => !(sortKey b).lex (sortKey a)

mutual

/-- The value with the fields of every object in it sorted. -/
def canonical : Json → Json
  | .null => .null
  | .bool value => .bool value
  | .integer number => .integer number
  | .decimal mantissa exponent => .decimal mantissa exponent
  | .string text => .string text
  | .array items => .array (canonicalItems items)
  | .object fields => .object (sortFields (canonicalFields fields))
termination_by structural value => value

/-- The items of an array with the fields of every object in them sorted. -/
def canonicalItems : List Json → List Json
  | [] => []
  | item :: rest => canonical item :: canonicalItems rest
termination_by structural items => items

/-- The fields of an object, in place, with those of every object below sorted. -/
def canonicalFields : List (String × Json) → List (String × Json)
  | [] => []
  | (name, value) :: rest => (name, canonical value) :: canonicalFields rest
termination_by structural fields => fields

end

/-- The canonical text of a value. -/
def canonicalText (value : Json) : String :=
  value.canonical.compact

end Json

end LayeredFlags
