import LayeredFlags.Json.Basic
import LayeredFlags.Text.Hex
/-!
# JSON Texts

A JSON value is written in compact form, without any space, or in pretty form, where each
item and each field has a line of its own, indented by two spaces for each level. An empty
array or object is written on one line in both. In strings, only the quote, the backslash
and the control characters below the space are escaped.
-/

namespace LayeredFlags.Json

/-- How a character is written inside a string. -/
def escape (c : Char) : List Char :=
  if c = '\x22' then ['\\', '\x22']
  else if c = '\\' then ['\\', '\\']
  else if c = '\x08' then ['\\', 'b']
  else if c = '\t' then ['\\', 't']
  else if c = '\n' then ['\\', 'n']
  else if c = '\x0c' then ['\\', 'f']
  else if c = '\r' then ['\\', 'r']
  else if c.toNat < 0x20 then
    ['\\', 'u', '0', '0', Text.hexDigit (c.toNat / 16), Text.hexDigit (c.toNat % 16)]
  else [c]

/-- How a string is written. -/
def quoted (text : List Char) : List Char :=
  '\x22' :: text.flatMap escape ++ ['\x22']

/-- How a whole number is written. -/
def digits (n : Int) : List Char :=
  (toString n).toList

/-- How a number with an exponent is written. -/
def scientific (mantissa exponent : Int) : List Char :=
  digits mantissa ++ 'e' :: digits exponent

/-- How a truth value is written. -/
def truth (value : Bool) : List Char :=
  if value then ['t', 'r', 'u', 'e'] else ['f', 'a', 'l', 's', 'e']

mutual

/-- The compact form of a value. -/
def compactChars : Json → List Char
  | .null => ['n', 'u', 'l', 'l']
  | .bool value => truth value
  | .integer number => digits number
  | .decimal mantissa exponent => scientific mantissa exponent
  | .string text => quoted text.toList
  | .array items => '[' :: compactItems true items ++ [']']
  | .object fields => '{' :: compactFields true fields ++ ['}']
termination_by structural value => value

/-- The compact form of the items of an array. All but the first have a comma in front. -/
def compactItems (first : Bool) : List Json → List Char
  | [] => []
  | item :: rest =>
    (if first then [] else [',']) ++ compactChars item ++ compactItems false rest
termination_by structural items => items

/-- The compact form of the fields of an object. All but the first have a comma in front. -/
def compactFields (first : Bool) : List (String × Json) → List Char
  | [] => []
  | (name, value) :: rest =>
    (if first then [] else [',']) ++ quoted name.toList ++ ':' :: compactChars value ++
      compactFields false rest
termination_by structural fields => fields

end

/-- A new line with the indentation of a level. -/
def newLine (level : Nat) : List Char :=
  '\n' :: List.replicate (2 * level) ' '

mutual

/-- The pretty form of a value that stands on the given level. -/
def prettyChars (level : Nat) : Json → List Char
  | .null => ['n', 'u', 'l', 'l']
  | .bool value => truth value
  | .integer number => digits number
  | .decimal mantissa exponent => scientific mantissa exponent
  | .string text => quoted text.toList
  | .array [] => ['[', ']']
  | .array (item :: rest) =>
    '[' :: prettyItems (level + 1) true (item :: rest) ++ newLine level ++ [']']
  | .object [] => ['{', '}']
  | .object (field :: rest) =>
    '{' :: prettyFields (level + 1) true (field :: rest) ++ newLine level ++ ['}']
termination_by structural value => value

/-- The pretty form of the items of an array on the given level, each on a new line. -/
def prettyItems (level : Nat) (first : Bool) : List Json → List Char
  | [] => []
  | item :: rest =>
    (if first then [] else [',']) ++ newLine level ++ prettyChars level item ++
      prettyItems level false rest
termination_by structural items => items

/-- The pretty form of the fields of an object on the given level, each on a new line. -/
def prettyFields (level : Nat) (first : Bool) : List (String × Json) → List Char
  | [] => []
  | (name, value) :: rest =>
    (if first then [] else [',']) ++ newLine level ++ quoted name.toList ++
      ':' :: ' ' :: prettyChars level value ++ prettyFields level false rest
termination_by structural fields => fields

end

/-- The compact text of a value. -/
def compact (value : Json) : String :=
  String.ofList (compactChars value)

/-- The pretty text of a value. -/
def pretty (value : Json) : String :=
  String.ofList (prettyChars 0 value)

end LayeredFlags.Json
