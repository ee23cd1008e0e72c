import LayeredFlags.Json.Basic
import LayeredFlags.Text.Hex
/-!
# The Grammar of JSON

`IsText` says which texts are texts of a value. Blanks may stand around values and marks, a
character of a string may be written in several ways, and so may a number. What a number stands
for keeps the way it is written: one with a fraction or an exponent is no whole number, and
neither is a negative zero.
-/

namespace LayeredFlags.Json.Grammar

/-- A space, a tab, a line feed or a carriage return. -/
def IsBlank (c : Char) : Prop :=
  c = ' ' ∨ c = '\t' ∨ c = '\n' ∨ c = '\r'

/-- Any number of blanks. -/
def Blanks (text : List Char) : Prop :=
  ∀ c ∈ text, IsBlank c

/-! ## Strings -/

/-- The letters that may follow a backslash, each with the character it stands for. -/
def shortEscapes : List (Char × Char) :=
  [('\x22', '\x22'), ('\\', '\\'), ('/', '/'), ('b', '\x08'), ('f', '\x0c'), ('n', '\n'),
    ('r', '\r'), ('t', '\t')]

/-- Four hexadecimal digits that spell a number. -/
def CodeUnit (digits : List Char) (number : Nat) : Prop :=
  digits.length = 4 ∧ Text.numberFrom? 16 0 digits = some number

/-- How a character may be written inside a string. -/
inductive Character : List Char → Char → Prop where
  /-- As it is, unless it ends the string, starts an escape or is a control character. -/
  | plain {c : Char} (hcontrol : 0x20 ≤ c.toNat) (hquote : c ≠ '\x22') (hbackslash : c ≠ '\\') :
      Character [c] c
  /-- By a backslash and a letter. -/
  | short {letter c : Char} (h : (letter, c) ∈ shortEscapes) : Character ['\\', letter] c
  /-- By its code point. -/
  | unit {digits : List Char} {c : Char} (h : CodeUnit digits c.toNat) :
      Character ('\\' :: 'u' :: digits) c
  /-- By the two halves of a surrogate pair. -/
  | pair {high low : List Char} {c : Char} {m n : Nat} (hhigh : CodeUnit high (0xD800 + m))
      (hlow : CodeUnit low (0xDC00 + n)) (hm : m < 0x400) (hn : n < 0x400)
      (hc : c.toNat = 0x10000 + 0x400 * m + n) :
      Character ('\\' :: 'u' :: high ++ '\\' :: 'u' :: low) c

/-- How characters may be written one after the other. -/
inductive Characters : List Char → List Char → Prop where
  /-- Nothing is written for none. -/
  | nil : Characters [] []
  /-- Each is written on its own. -/
  | cons {spelled text chars : List Char} {c : Char} (hhead : Character spelled c)
      (htail : Characters text chars) : Characters (spelled ++ text) (c :: chars)

/-! ## Numbers -/

/-- One or more decimal digits. -/
def Digits (text : List Char) : Prop :=
  text ≠ [] ∧ ∀ c ∈ text, c.isDigit = true

/-- The whole part of a number has no superfluous zeros. -/
inductive Whole : List Char → Prop where
  /-- It is a zero. -/
  | zero : Whole ['0']
  /-- Or it starts with another digit. -/
  | digits {text : List Char} (h : Digits text) (hhead : text.head? ≠ some '0') : Whole text

/-- The fraction of a number: what is written, and its digits. -/
inductive Fraction : List Char → Option (List Char) → Prop where
  /-- There is none. -/
  | absent : Fraction [] none
  /-- A point stands before the digits. -/
  | present {digits : List Char} (h : Digits digits) : Fraction ('.' :: digits) (some digits)

/-- The exponent of a number: what is written, and the power of ten. -/
inductive Exponent : List Char → Option Int → Prop where
  /-- There is none. -/
  | absent : Exponent [] none
  /-- It has no sign. -/
  | unsigned {mark : Char} {digits : List Char} {number : Nat} (hmark : mark = 'e' ∨ mark = 'E')
      (h : Digits digits) (hnumber : Text.numberFrom? 10 0 digits = some number) :
      Exponent (mark :: digits) (some number)
  /-- It has a plus in front. -/
  | plus {mark : Char} {digits : List Char} {number : Nat} (hmark : mark = 'e' ∨ mark = 'E')
      (h : Digits digits) (hnumber : Text.numberFrom? 10 0 digits = some number) :
      Exponent (mark :: '+' :: digits) (some number)
  /-- It has a minus in front. -/
  | minus {mark : Char} {digits : List Char} {number : Nat} (hmark : mark = 'e' ∨ mark = 'E')
      (h : Digits digits) (hnumber : Text.numberFrom? 10 0 digits = some number) :
      Exponent (mark :: '-' :: digits) (some (-number))

/-- A number with its sign. -/
def signed (negative : Bool) (magnitude : Nat) : Int :=
  if negative then -magnitude else magnitude

/-- The value of a number, by the digits of its whole part and of its fraction together. -/
def numberOf (negative : Bool) (magnitude : Nat) (fraction : Option (List Char))
    (exponent : Option Int) : Json :=
  if fraction = none ∧ exponent = none ∧ ¬(negative = true ∧ magnitude = 0) then
    .integer (signed negative magnitude)
  else .decimal (signed negative magnitude) (exponent.getD 0 - (fraction.getD []).length)

/-- A number has a sign if it is negative, a whole part, and maybe a fraction and an exponent. -/
inductive Number : List Char → Json → Prop where
  /-- They stand one after the other. -/
  | mk (negative : Bool) {whole fractionText exponentText : List Char}
      {fraction : Option (List Char)} {exponent : Option Int} {magnitude : Nat}
      (hwhole : Whole whole) (hfraction : Fraction fractionText fraction)
      (hexponent : Exponent exponentText exponent)
      (hmagnitude : Text.numberFrom? 10 0 (whole ++ fraction.getD []) = some magnitude) :
      Number ((if negative then ['-'] else []) ++ (whole ++ (fractionText ++ exponentText)))
        (numberOf negative magnitude fraction exponent)

/-! ## Values -/

mutual

/-- The texts of a value, without blanks around it. -/
inductive Value : List Char → Json → Prop where
  /-- The value `null`. -/
  | null : Value ['n', 'u', 'l', 'l'] .null
  /-- The truth value `true`. -/
  | true : Value ['t', 'r', 'u', 'e'] (.bool true)
  /-- The truth value `false`. -/
  | false : Value ['f', 'a', 'l', 's', 'e'] (.bool false)
  /-- A number. -/
  | number {text : List Char} {json : Json} (h : Number text json) : Value text json
  /-- A string stands in quotes. -/
  | string {text : List Char} {read : String} (h : Characters text read.toList) :
      Value ('\x22' :: text ++ ['\x22']) (.string read)
  /-- An array without items may hold blanks. -/
  | emptyArray {between : List Char} (h : Blanks between) :
      Value ('[' :: between ++ [']']) (.array [])
  /-- An array stands in brackets. -/
  | array {text : List Char} {items : List Json} (h : Items text items) :
      Value ('[' :: text ++ [']']) (.array items)
  /-- An object without fields may hold blanks. -/
  | emptyObject {between : List Char} (h : Blanks between) :
      Value ('{' :: between ++ ['}']) (.object [])
  /-- An object stands in braces. -/
  | object {text : List Char} {fields : List (String × Json)} (h : Fields text fields) :
      Value ('{' :: text ++ ['}']) (.object fields)

/-- One or more items with commas between them and blanks around each. -/
inductive Items : List Char → List Json → Prop where
  /-- The last item. -/
  | last {before text after : List Char} {item : Json} (hbefore : Blanks before)
      (hitem : Value text item) (hafter : Blanks after) :
      Items (before ++ (text ++ after)) [item]
  /-- An item with others behind it. -/
  | cons {before text after more : List Char} {item : Json} {rest : List Json}
      (hbefore : Blanks before) (hitem : Value text item) (hafter : Blanks after)
      (hrest : Items more rest) :
      Items (before ++ (text ++ (after ++ ',' :: more))) (item :: rest)

/-- A name in quotes, a colon and a value, with blanks around each. -/
inductive Field : List Char → String × Json → Prop where
  /-- They stand one after the other. -/
  | mk {before name gap space text after : List Char} {read : String} {value : Json}
      (hbefore : Blanks before) (hname : Characters name read.toList) (hgap : Blanks gap)
      (hspace : Blanks space) (hvalue : Value text value) (hafter : Blanks after) :
      Field (before ++ '\x22' :: (name ++ '\x22' :: (gap ++ ':' :: (space ++ (text ++ after)))))
        (read, value)

/-- One or more fields with commas between them. -/
inductive Fields : List Char → List (String × Json) → Prop where
  /-- The last field. -/
  | last {text : List Char} {field : String × Json} (hfield : Field text field) :
      Fields text [field]
  /-- A field with others behind it. -/
  | cons {text more : List Char} {field : String × Json} {rest : List (String × Json)}
      (hfield : Field text field) (hrest : Fields more rest) :
      Fields (text ++ ',' :: more) (field :: rest)

end

/-- The text is one of a value, with blanks around it. -/
def IsText (text : String) (json : Json) : Prop :=
  ∃ before spelled after, Blanks before ∧ Value spelled json ∧ Blanks after ∧
    text.toList = before ++ (spelled ++ after)

end LayeredFlags.Json.Grammar
