import LayeredFlags.Decimal.Shortest
import LayeredFlags.Text.Printable
import LayeredFlags.Toml.Literal
/-!
# Records in TOML

A record is read from a table with its fields under their names, or from an array with its
fields in order. Every field of a table is looked at in the order of the document before a
missing one is reported.
-/

namespace LayeredFlags.Toml

/-- What stands where something else was expected. -/
inductive Found where
  /-- A whole number. -/
  | integer (number : Int64)
  /-- A number that is not whole by its form. -/
  | float (number : Binary64)
  /-- A truth value. -/
  | boolean (value : Bool)
  /-- A string. -/
  | string (text : String)
  /-- An array. -/
  | sequence
  /-- A table, a date or a time. -/
  | map
deriving DecidableEq, Repr

/-- The wording of what was found. -/
def Found.message : Found → String
  | .integer number => s!"integer `{number.toInt}`"
  | .float number => s!"floating point `{number.toText}`"
  | .boolean value => s!"boolean `{value}`"
  | .string text => s!"string {Text.quoted text}"
  | .sequence => "sequence"
  | .map => "map"

/-- What a value is reported as. -/
def Value.found : Value → Found
  | .string text => .string text
  | .integer number => .integer number
  | .float number => .float number
  | .boolean value => .boolean value
  | .datetime => .map
  | .array _ => .sequence
  | .table _ => .map
  | .tables _ => .sequence

/-- Why a document does not have the form that was asked for. -/
inductive ShapeError where
  /-- A field that has to be there is not. -/
  | missingField (name : String)
  /-- A record has a field that it may not have. -/
  | unknownField (name : String) (expected : List String)
  /-- A word is none of the choices. -/
  | unknownChoice (name : String) (expected : List String)
  /-- A value is of another type. -/
  | wrongType (found : Found) (expected : String)
  /-- An array has too few items for a record. -/
  | tooShort (length : Nat) (record : String) (size : Nat)
  /-- A choice is neither a word nor a table. -/
  | noChoice
  /-- A table that makes a choice is empty. -/
  | emptyChoice
  /-- A table that makes a choice has several keys. -/
  | severalChoices
  /-- The array or table under the key of a choice holds something. -/
  | filledChoice
  /-- Headers have opened tables under the key of a choice. -/
  | tablesInChoice
  /-- The value under the key of a choice is of the given type and no table. -/
  | choiceOf (type : String)
deriving DecidableEq, Repr

/-- Names between backquotes, as a list of alternatives. -/
def alternatives : List String → String
  | [first] => s!"`{first}`"
  | [first, second] => s!"`{first}` or `{second}`"
  | names => "one of " ++ ", ".intercalate (names.map fun name => s!"`{name}`")

/-- The wording of an error. -/
def ShapeError.message : ShapeError → String
  | .missingField name => s!"missing field `{name}`"
  | .unknownField name expected =>
    s!"unknown field `{name}`, expected {alternatives expected}"
  | .unknownChoice name expected =>
    s!"unknown variant `{name}`, expected {alternatives expected}"
  | .wrongType found expected => s!"invalid type: {found.message}, expected {expected}"
  | .tooShort length record size =>
    s!"invalid length {length}, expected {record} with {size} elements"
  | .noChoice => "wanted string or table"
  | .emptyChoice => "wanted exactly 1 element, found 0 elements"
  | .severalChoices => "wanted exactly 1 element, more than 1 element"
  | .filledChoice => "expected empty table"
  | .tablesInChoice => "expected empty array"
  | .choiceOf type => s!"expected table, found {type}"

/-- A function that reads a value of a type. -/
abbrev Reading (α : Type) := Value → Except ShapeError α

/-- Read a string. -/
def readString : Reading String
  | .string text => .ok text
  | value => .error (.wrongType value.found "a string")

/-- Read a path. -/
def readPath : Reading String
  | .string text => .ok text
  | value => .error (.wrongType value.found "path string")

/-- Read a whole number. -/
def readInteger : Reading Int64
  | .integer number => .ok number
  | value => .error (.wrongType value.found "i64")

/-- Read a list. -/
def readList {α : Type} (read : Reading α) : Reading (List α)
  | .array items => items.mapM read
  | .tables elements => elements.mapM fun fields => read (.table fields)
  | value => .error (.wrongType value.found "a sequence")

/-- What stands under the key of a choice has to hold nothing. -/
def checkEmpty : Value → Except ShapeError Unit
  | .array [] => .ok ()
  | .table [] => .ok ()
  | .array _ => .error .filledChoice
  | .table _ => .error .filledChoice
  | .tables _ => .error .tablesInChoice
  | .string _ => .error (.choiceOf "string")
  | .integer _ => .error (.choiceOf "integer")
  | .float _ => .error (.choiceOf "float")
  | .boolean _ => .error (.choiceOf "boolean")
  | .datetime => .error (.choiceOf "datetime")

/-- Read one of some choices, which are given with their names. A choice is a word, or the
one key of a table under which there is nothing. -/
def readChoice {α : Type} (choices : List (String × α)) : Reading α := fun value =>
  let choose (name : String) : Except ShapeError α :=
    match choices.lookup name with
    | some choice => .ok choice
    | none => .error (.unknownChoice name (choices.map (·.1)))
  match value with
  | .string name => choose name
  | .table [] => .error .emptyChoice
  | .table [(name, inner)] => do
    let choice ← choose name
    checkEmpty inner
    return choice
  | .table _ => .error .severalChoices
  | _ => .error .noChoice

/-- The form of a record: what it is called in errors, and how each of its fields is
checked, in the order of their declaration. -/
structure Layout where
  /-- What the record is called. -/
  title : String
  /-- The names of the fields, and how a value of each is checked. -/
  fields : List (String × (Value → Except ShapeError Unit))

/-- Check that a value can be read. -/
def checked {α : Type} (read : Reading α) (value : Value) : Except ShapeError Unit :=
  (read value).map fun _ => ()

/-- The values of a record. -/
inductive Record where
  /-- Values under their names. -/
  | named (fields : List (String × Value))
  /-- Values in the order of the declaration. -/
  | positional (items : List Value)

namespace Layout

/-- The names of the fields. -/
def names (layout : Layout) : List String :=
  layout.fields.map (·.1)

/-- Check one field of a table. -/
def checkField (layout : Layout) (field : String × Value) : Except ShapeError Unit :=
  match layout.fields.lookup field.1 with
  | some check => check field.2
  | none => .error (.unknownField field.1 layout.names)

/-- Check the fields of a table, in their order. -/
def checkTable (layout : Layout) (fields : List (String × Value)) :
    Except ShapeError Record := do
  fields.forM layout.checkField
  return .named fields

/-- Take a value as a record. A date is taken as a table with a key of its own. -/
def record (layout : Layout) : Value → Except ShapeError Record
  | .table fields => layout.checkTable fields
  | .array items => .ok (.positional items)
  | .tables elements => .ok (.positional (elements.map .table))
  | .datetime => .error (.unknownField "$__toml_private_datetime" layout.names)
  | value => .error (.wrongType value.found layout.title)

/-- The value of a field, if the record has it. -/
def value? (layout : Layout) (name : String) : Record → Option Value
  | .named fields => fields.lookup name
  | .positional items => items[layout.names.idxOf name]?

/-- Read a field that has to be there. -/
def required {α : Type} (layout : Layout) (name : String) (read : Reading α)
    (record : Record) : Except ShapeError α :=
  match layout.value? name record with
  | some value => read value
  | none =>
    match record with
    | .named _ => .error (.missingField name)
    | .positional items => .error (.tooShort items.length layout.title layout.fields.length)

/-- Read a field that may be left out, in favour of the given value. -/
def optional {α : Type} (layout : Layout) (name : String) (read : Reading α) (absent : α)
    (record : Record) : Except ShapeError α :=
  match layout.value? name record with
  | some value => read value
  | none => .ok absent

end Layout

/-- Why a text is not read. -/
inductive Error where
  /-- The text is not TOML. -/
  | notToml
  /-- The text is TOML of another form. -/
  | shape (error : ShapeError)
deriving DecidableEq, Repr

/-- The wording of an error. -/
def Error.message : Error → String
  | .notToml => "TOML parse error"
  | .shape error => s!"TOML parse error\n{error.message}"

end LayeredFlags.Toml
