/-!
# Faults of a Layer Text

Every fault names the line it stands on, counted from one.
-/

namespace LayeredFlags.LayerText

/-- Why a line is no directive. -/
inductive Malformation where
  /-- A literal is still open at the end of its line. -/
  | openLiteral
  /-- The line starts with a word that is no keyword. -/
  | unknownKeyword (word : String)
  /-- Nothing follows the keyword. -/
  | missingFlag (keyword : String)
  /-- A word follows the name of the flag. -/
  | extraWord (word : String)
  /-- Nothing follows the given preprocessor keyword. -/
  | missingName (keyword : String)
  /-- A text follows the name that is undefined. -/
  | extraText (text : String)
deriving DecidableEq, Repr

/-- The wording of a malformation. -/
def Malformation.message : Malformation → String
  | .openLiteral => "unterminated string literal"
  | .unknownKeyword word => s!"expected ENABLE or DISABLE, found '{word}'"
  | .missingFlag keyword => s!"{keyword} requires a flag name"
  | .extraWord word => s!"unexpected '{word}' after flag name"
  | .missingName keyword => s!"#{keyword} requires a name"
  | .extraText text => s!"unexpected '{text}' after #undef name"

/-- What can be wrong with a layer text. -/
inductive Fault where
  /-- A name is no identifier. -/
  | invalidName (name : String)
  /-- A preprocessor line has a keyword other than `define` and `undef`. -/
  | unsupportedDirective (keyword : String)
  /-- A line is no directive. -/
  | malformed (reason : Malformation)
  /-- A block comment is still open at the end of the text. -/
  | openComment
  /-- The bytes of the text are not UTF-8. -/
  | notUtf8
deriving DecidableEq, Repr

/-- The wording of a fault, without its line. -/
def Fault.message : Fault → String
  | .invalidName name => s!"invalid flag name '{name}'"
  | .unsupportedDirective keyword => s!"unsupported directive '#{keyword}'"
  | .malformed reason => reason.message
  | .openComment => "unterminated block comment"
  | .notUtf8 => "invalid UTF-8"

/-- A fault and the line that it is reported for. -/
structure Error where
  /-- The line, counted from one. -/
  line : Nat
  /-- What is wrong there. -/
  fault : Fault
deriving DecidableEq, Repr

/-- The wording of an error. -/
def Error.message (error : Error) : String :=
  s!"line {error.line}: {error.fault.message}"

end LayeredFlags.LayerText
