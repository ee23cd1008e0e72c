/-!
# JSON Values

A JSON value keeps the fields of an object in their order. Whole numbers are told apart from
numbers that are written with a point or an exponent, also where these are whole.
-/

namespace LayeredFlags

/-- A JSON value. -/
inductive Json where
  /-- The value `null`. -/
  | null
  /-- A truth value. -/
  | bool (value : Bool)
  /-- A whole number, written without a point or an exponent. -/
  | integer (number : Int)
  /-- The number `mantissa * 10 ^ exponent`, written with a point or an exponent. -/
  | decimal (mantissa : Int) (exponent : Int)
  /-- A string. -/
  | string (text : String)
  /-- An array. -/
  | array (items : List Json)
  /-- An object, its fields in order. -/
  | object (fields : List (String × Json))
deriving Inhabited

namespace Json

/-- What holds of the values without others in them, of every array if it holds of its items, and
of every object if it holds of the values of its fields, holds of all values. -/
theorem induction {motive : Json → Prop} (null : motive .null)
    (bool : ∀ value, motive (.bool value)) (integer : ∀ number, motive (.integer number))
    (decimal : ∀ mantissa exponent, motive (.decimal mantissa exponent))
    (string : ∀ text, motive (.string text))
    (array : ∀ items, (∀ item ∈ items, motive item) → motive (.array items))
    (object : ∀ fields, (∀ field ∈ fields, motive field.2) → motive (.object fields))
    (json : Json) : motive json := by
  refine Json.rec (motive_1 := motive) (motive_2 := fun items => ∀ item ∈ items, motive item)
    (motive_3 := fun fields => ∀ field ∈ fields, motive field.2)
    (motive_4 := fun field => motive field.2) null bool integer decimal string array object
    ?_ ?_ ?_ ?_ (fun _ _ h => h) json
  · exact fun item h => nomatch h
  · exact fun item rest hitem hrest => List.forall_mem_cons.2 ⟨hitem, hrest⟩
  · exact fun field h => nomatch h
  · exact fun field rest hfield hrest => List.forall_mem_cons.2 ⟨hfield, hrest⟩

/-- The fields of a record with the given names. An object has each of them once at most. Its
other fields are passed over, but a closed record has none. An array has the values of the first
fields, in order. -/
def record? (closed : Bool) (names : List String) : Json → Option (List (String × Json))
  | .object fields =>
    let known := fields.filter fun field => names.contains field.1
    if closed ∧ known.length ≠ fields.length then none
    else if (known.map (·.1)).Nodup then some known
    else none
  | .array items => if items.length ≤ names.length then some (names.zip items) else none
  | _ => none

/-- The name of a choice without a value, which is a string or the one field, with the value
`null`, of an object. -/
def choice? : Json → Option String
  | .string name => some name
  | .object [(name, .null)] => some name
  | _ => none

end Json

end LayeredFlags
