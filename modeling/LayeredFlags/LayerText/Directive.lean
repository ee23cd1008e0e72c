import LayeredFlags.Flag.Basic
import LayeredFlags.Flag.Name
import LayeredFlags.LayerText.Error
import LayeredFlags.Text.Blank
/-!
# Directives of a Layer Text

One line of a layer text, without its comments and without blanks at its ends, is a comment
of its own or a directive of one of these forms, in which blanks separate the words:

* `ENABLE NAME` and `#define NAME` assert that the flag is enabled,
* `DISABLE NAME` and `#undef NAME` assert that it is disabled,
* `#define NAME VALUE` gives a value to a constant.
-/

namespace LayeredFlags.LayerText

open Text

/-- What one line of a layer text says. -/
inductive Directive where
  /-- The line asserts the state of a flag. -/
  | assert (assertion : Assertion)
  /-- The line gives a value to a constant. -/
  | set (setting : Setting)
deriving DecidableEq, Repr

namespace Directive

/-- The assertion that a directive makes, if it makes one. -/
def assertion? : Directive → Option Assertion
  | .assert assertion => some assertion
  | .set _ => none

/-- The setting that a directive makes, if it makes one. -/
def setting? : Directive → Option Setting
  | .assert _ => none
  | .set setting => some setting

/-- The name that a directive speaks of. -/
def name : Directive → String
  | .assert assertion => assertion.flag
  | .set setting => setting.name

end Directive

/-- The line is a comment as a whole: `#`, and then nothing, a blank or another `#`. -/
def isHashComment : List Char → Bool
  | [] => false
  | c :: rest => c == '#' && match rest with
    | [] => true
    | d :: _ => isBlank d || d == '#'

/-- The text of a name, which has to be an identifier. -/
def readName (name : List Char) : Except Fault String :=
  if FlagName.isIdentifier name then .ok (String.ofList name)
  else .error (.invalidName (String.ofList name))

/-- Read what follows `ENABLE` or `DISABLE`: one name and nothing else. -/
def readFlag (keyword : String) (state : FlagState) (text : List Char) :
    Except Fault Directive :=
  let (name, rest) := nextWord text
  let (extra, _) := nextWord rest
  if name = [] then .error (.malformed (.missingFlag keyword))
  else if extra ≠ [] then .error (.malformed (.extraWord (String.ofList extra)))
  else return .assert ⟨← readName name, state⟩

/-- Read what follows `#define`: a name and possibly a value. -/
def readDefine (text : List Char) : Except Fault Directive := do
  let (name, rest) := nextWord text
  if name = [] then throw (.malformed (.missingName "define"))
  let name ← readName name
  let value := trim rest
  if value = [] then return .assert ⟨name, .enabled⟩
  return .set ⟨name, String.ofList value⟩

/-- Read what follows `#undef`: a name and nothing else. -/
def readUndef (text : List Char) : Except Fault Directive := do
  let (name, rest) := nextWord text
  if name = [] then throw (.malformed (.missingName "undef"))
  let extra := trim rest
  if extra ≠ [] then throw (.malformed (.extraText (String.ofList extra)))
  return .assert ⟨← readName name, .disabled⟩

/-- Read what follows the `#` of a line. -/
def readPreprocessor (text : List Char) : Except Fault Directive :=
  let (keyword, rest) := nextWord text
  if keyword = "define".toList then readDefine rest
  else if keyword = "undef".toList then readUndef rest
  else .error (.unsupportedDirective (String.ofList keyword))

/-- Read a line that starts with a word. -/
def readWords (text : List Char) : Except Fault Directive :=
  let (keyword, rest) := nextWord text
  if keyword = "ENABLE".toList then readFlag "ENABLE" .enabled rest
  else if keyword = "DISABLE".toList then readFlag "DISABLE" .disabled rest
  else .error (.malformed (.unknownKeyword (String.ofList keyword)))

/-- Read one line that has no comments and no blanks at its ends. A comment as a whole
gives no directive. -/
def readDirective (code : List Char) : Except Fault (Option Directive) :=
  if isHashComment code then .ok none
  else match code with
    | '#' :: rest => some <$> readPreprocessor rest
    | _ => some <$> readWords code

end LayeredFlags.LayerText
