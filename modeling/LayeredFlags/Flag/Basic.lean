/-!
# Flags

A build flag is enabled or disabled. It is defined by its name, the state it has when no layer
speaks of it, a description that only annotated output shows, and its constraints on other flags.
What a layer says is a state for a flag, or a value for a named constant that is no flag.
-/

namespace LayeredFlags

/-! ## States -/

/-- The state of a build flag, asserted or final. -/
inductive FlagState where
  /-- The flag is on. -/
  | enabled
  /-- The flag is off. -/
  | disabled
deriving DecidableEq, Repr

namespace FlagState

/-- The flag is on. -/
def isEnabled : FlagState → Bool
  | .enabled => true
  | .disabled => false

/-- The word for a state. -/
def toText : FlagState → String
  | .enabled => "enabled"
  | .disabled => "disabled"

/-- The state that a word names, if it names one. -/
def ofText? (text : String) : Option FlagState :=
  if text = "enabled" then some .enabled
  else if text = "disabled" then some .disabled
  else none

/-- What is said of a text that names no state. -/
def unknownMessage (text : String) : String :=
  s!"invalid flag state '{text}': expected enabled or disabled"

/-- A state is read back from its word. -/
@[simp]
theorem ofText?_toText (state : FlagState) : ofText? state.toText = some state := by
  cases state <;> decide

end FlagState

/-! ## Definitions -/

/-- A constraint that a flag declares on another flag. -/
inductive Constraint where
  /-- The two flags must not both be enabled. -/
  | excludes (target : String)
  /-- While this flag is enabled the other one must be enabled too. -/
  | requires (target : String)
deriving DecidableEq, Repr

/-- The flag at the other end of a constraint. -/
def Constraint.target : Constraint → String
  | .excludes target => target
  | .requires target => target

/-- One build flag as a registry knows it. -/
structure FlagDefinition where
  /-- The name, in which case matters. -/
  name : String
  /-- The state of the flag when no layer asserts it. -/
  defaultState : FlagState
  /-- Free text for annotated output. -/
  description : String := ""
  /-- The declared constraints, in the order of their declaration. -/
  constraints : List Constraint := []
deriving DecidableEq, Repr

/-! ## Assertions and settings -/

/-- The state that a layer asserts for a flag. -/
structure Assertion where
  /-- The name of the flag. -/
  flag : String
  /-- The asserted state. -/
  state : FlagState
deriving DecidableEq, Repr

/-- A named constant and its value, carried beside the flags. -/
structure Setting where
  /-- The name of the constant. -/
  name : String
  /-- The text of its value. -/
  value : String
deriving DecidableEq, Repr

end LayeredFlags
