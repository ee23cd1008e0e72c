/-!
# Option Grammars

Arguments are read from the left, and each changes what was read before it or stops the
reading. An option is written as a word after two dashes or as a letter after one. Letters
may be joined, and a value may be attached to its option or follow as an argument of its own.
After a lone `--` every argument is an operand.
-/

namespace LayeredFlags.Command

/-- Why arguments do not name anything to be run. -/
inductive Stop where
  /-- The arguments are used wrongly. -/
  | usage
  /-- Help is asked for. -/
  | help
  /-- The version is asked for. -/
  | version
deriving DecidableEq, Repr

/-- A change of what was read. -/
abbrev Change (σ : Type) := σ → Except Stop σ

/-- What an option does. -/
inductive Effect (σ : Type) where
  /-- The option has no value. -/
  | switch (apply : Change σ)
  /-- The option has a value. -/
  | value (apply : String → Change σ)

/-- An option. -/
structure OptionForm (σ : Type) where
  /-- The word for the option. -/
  word : String
  /-- The letter for the option. -/
  letter : Option Char
  /-- What the option does. -/
  effect : Effect σ

/-- The options and operands that may be given. -/
structure Grammar (σ : Type) where
  /-- The options. -/
  options : List (OptionForm σ)
  /-- What an operand does. -/
  operand : String → Change σ

/-- The argument is written as an option. A lone dash is not. -/
def isOption (argument : String) : Bool :=
  argument.toList.head? == some '-' && argument != "-"

namespace Grammar

variable {σ : Type}

/-- What was read, and what is to be done with a value that has to follow. -/
abbrev Progress (σ : Type) := σ × Option (String → Change σ)

/-- Read what stands after two dashes. -/
def readWord (grammar : Grammar σ) (state : σ) (text : List Char) :
    Except Stop (Progress σ) :=
  let word := String.ofList (text.takeWhile (· != '='))
  match grammar.options.find? (·.word == word) with
  | none => .error .usage
  | some option =>
    match option.effect, text.dropWhile (· != '=') with
    | .switch apply, [] => return (← apply state, none)
    | .switch _, _ :: _ => .error .usage
    | .value apply, [] => .ok (state, some apply)
    | .value apply, _ :: attached => return (← apply (String.ofList attached) state, none)

/-- The value that is attached to a letter. An equals sign may stand before it. -/
def attachedValue : List Char → String
  | '=' :: attached => String.ofList attached
  | attached => String.ofList attached

/-- Read what stands after one dash. -/
def readLetters (grammar : Grammar σ) (state : σ) : List Char → Except Stop (Progress σ)
  | [] => .ok (state, none)
  | letter :: rest =>
    match grammar.options.find? (·.letter == some letter) with
    | none => .error .usage
    | some option =>
      match option.effect with
      | .switch apply => do grammar.readLetters (← apply state) rest
      | .value apply =>
        if rest.isEmpty then .ok (state, some apply)
        else return (← apply (attachedValue rest) state, none)

/-- Read an argument that is written as an option. -/
def readOption (grammar : Grammar σ) (state : σ) (argument : String) :
    Except Stop (Progress σ) :=
  match argument.toList with
  | '-' :: '-' :: text => grammar.readWord state text
  | text => grammar.readLetters state text.tail

/-- Read operands. -/
def readOperands (grammar : Grammar σ) (state : σ) (operands : List String) : Except Stop σ :=
  operands.foldlM (fun state operand => grammar.operand operand state) state

/-- Read arguments. -/
def read (grammar : Grammar σ) (state : σ) : List String → Except Stop σ
  | [] => .ok state
  | argument :: rest =>
    if argument = "--" then grammar.readOperands state rest
    else if isOption argument then
      match grammar.readOption state argument with
      | .error stop => .error stop
      | .ok (state, none) => grammar.read state rest
      | .ok (state, some apply) =>
        match rest with
        | [] => .error .usage
        | value :: rest =>
          -- What is written as an option is not taken as a value.
          if isOption value then .error .usage
          else do grammar.read (← apply value state) rest
    else do grammar.read (← grammar.operand argument state) rest

end Grammar

end LayeredFlags.Command
