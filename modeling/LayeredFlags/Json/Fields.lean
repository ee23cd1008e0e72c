import LayeredFlags.Json.Basic
/-!
# Reading Objects by Name

A record that was written as a JSON object is read by the names of its fields. The order of the
fields does not matter, and nothing is read under a name that stands twice.
-/

namespace LayeredFlags.Json

variable {α : Type}

/-- The values of the fields of a name. -/
def values (name : String) : Json → List Json
  | .object fields => (fields.filter (·.1 == name)).map (·.2)
  | _ => []

@[simp]
theorem values_object_nil (name : String) : (object []).values name = [] := rfl

@[simp]
theorem values_object_cons (name field : String) (value : Json) (rest : List (String × Json)) :
    (object ((field, value) :: rest)).values name =
      if field = name then value :: (object rest).values name else (object rest).values name := by
  by_cases h : field = name <;> simp [values, h]

/-- What is read of the value of the one field of a name. -/
def at? (name : String) (read : Json → Option α) (json : Json) : Option α :=
  match json.values name with
  | [value] => read value
  | _ => none

/-- What is read of the value of a field that may be left out, in favour of the given one. -/
def atOr? (absent : α) (name : String) (read : Json → Option α) (json : Json) : Option α :=
  if (json.values name).isEmpty then some absent else json.at? name read

/-- What is read of every item of an array. -/
def items? (read : Json → Option α) : Json → Option (List α)
  | .array items => items.mapM read
  | _ => none

/-- The text of a string. -/
def text? : Json → Option String
  | .string text => some text
  | _ => none

/-- A truth value. -/
def truth? : Json → Option Bool
  | .bool value => some value
  | _ => none

/-- A whole number that is not negative. -/
def count? : Json → Option Nat
  | .integer (.ofNat number) => some number
  | _ => none

end LayeredFlags.Json
