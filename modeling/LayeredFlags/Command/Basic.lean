import LayeredFlags.Files.Tree
import LayeredFlags.Stack.Resolution
/-!
# Commands

A command resolves a stack, validates it or explains it, or it parses one layer text. What it
answers is a function of the files it can read. The only one that changes a file is the
command that resolves a stack, and it does so when everything else has succeeded.
-/

namespace LayeredFlags

/-- The path of the manifest of a working directory. -/
def defaultManifest : String := "flagstack.toml"

/-- How the stack of a command is named. -/
inductive StackChoice where
  /-- By a manifest. -/
  | manifest (path : String)
  /-- By a catalog and some layers. -/
  | parts (catalog : String) (layers : List LayerEntry)
deriving DecidableEq, Repr

namespace StackChoice

/-- Load the stack. -/
def load (read : Reader) : StackChoice → Except StackError Stack
  | .manifest path => Stack.load read path
  | .parts catalog layers => Stack.ofParts read catalog layers

/-- The files that the stack is loaded from, as far as the files that can be read tell. -/
def files (read : Reader) : StackChoice → List String
  | .manifest path =>
    match Manifest.load read path with
    | .ok content => path :: content.catalog :: content.layers.map (·.path)
    | .error _ => [path]
  | .parts catalog layers => catalog :: layers.map (·.path)

end StackChoice

/-- What the program is asked to do. -/
inductive Command where
  /-- Resolve a stack and write its configuration. -/
  | resolve (stack : StackChoice) (format : OutputFormat) (annotate : Bool)
      (output : Option String)
  /-- Tell whether a stack breaks a constraint. -/
  | validate (stack : StackChoice) (json : Bool)
  /-- Tell where the configuration of a stack comes from. -/
  | explain (stack : StackChoice) (human : Bool)
  /-- Tell what a layer text says. -/
  | parse (path : String)
deriving DecidableEq, Repr

/-- What a run of the program shows, the lines of its log left out. -/
structure Outcome where
  /-- The exit code. -/
  exitCode : Nat
  /-- What is written to the standard output. -/
  stdout : String
  /-- What is written to the standard error, without the lines of the log. These are written there
  too: what is logged only if it is asked for, and the warnings of every run that finds constraints
  broken, such as a run with the exit code 2. -/
  stderr : String
deriving DecidableEq, Repr

namespace Outcome

/-- A run that succeeds and shows a text. -/
def success (text : String) : Outcome := ⟨0, text, ""⟩

/-- The lines that list violations. -/
def violationLines (violations : List Violation) : String :=
  String.join (violations.map fun violation => s!"  - {violation.message}\n")

/-- What is shown of an error. -/
def errorText : StackError → String
  | .flag (.constraintViolation violations) =>
    "Constraint violations:\n" ++ violationLines violations
  | error => s!"Error: {error.message}\n"

/-- A run that ends with an error. -/
def failure (error : StackError) : Outcome := ⟨error.exitCode, "", errorText error⟩

end Outcome

/-- What a command answers. -/
inductive Answer where
  /-- It shows something. -/
  | print (outcome : Outcome)
  /-- It saves a text to a file and shows nothing. -/
  | save (path text : String)
deriving DecidableEq, Repr

namespace Answer

/-- The answer of a computation that may fail. -/
def ofResult : Except StackError Answer → Answer
  | .ok answer => answer
  | .error error => .print (.failure error)

end Answer

namespace Command

/-- Load and resolve a stack. -/
def resolved (read : Reader) (choice : StackChoice) : Except StackError (Stack × Resolution) := do
  let stack ← choice.load read
  let resolution ← liftFlag stack.resolve
  return (stack, resolution)

/-- The configuration of a stack in a format, if no constraint is broken. -/
def rendering (read : Reader) (choice : StackChoice) (format : OutputFormat)
    (annotate : Bool) : Except StackError String := do
  let (stack, resolution) ← resolved read choice
  let valid ← liftFlag (resolution.approve stack.registry)
  return valid.render stack.registry format annotate

/-- The line that tells that a configuration breaks no constraint, or the lines that tell
which it breaks. -/
def verdict (stack : Stack) (resolution : Resolution) : String :=
  if resolution.isValid then
    let flags := resolution.configuration.entries.length
    s!"Configuration valid: {flags} flags, {stack.layers.layers.length} layers\n"
  else "Configuration invalid:\n" ++ Outcome.violationLines resolution.violations

/-- The JSON form of what a layer text says. -/
def documentJson (path : String) (document : LayerText.Document) : Json :=
  .object
    [("assertions", JsonCodec.encode document.assertions),
      ("path", .string path),
      ("settings", JsonCodec.encode document.settings)]

/-- Read a file as a layer text. -/
def parsed (read : Reader) (path : String) : Except StackError LayerText.Document := do
  let text ← (readText read path).mapError (.file path)
  (LayerText.parse text).mapError (.layerText path)

/-- The answer of a command, at the given time. -/
def answer (read : Reader) (now : String) : Command → Answer
  | .resolve choice format annotate output => .ofResult do
    let text ← rendering read choice format annotate
    match output with
    | none => return .print (.success text)
    | some path => return .save path text
  | .validate choice json => .ofResult do
    let (stack, resolution) ← resolved read choice
    let text :=
      if json then (stack.report now resolution).toJson.pretty ++ "\n"
      else verdict stack resolution
    return .print ⟨if resolution.isValid then 0 else 2, text, ""⟩
  | .explain choice human => .ofResult do
    let (stack, resolution) ← resolved read choice
    let report := stack.report now resolution
    return .print (.success ((if human then report.toHuman else report.toJson.pretty) ++ "\n"))
  | .parse path => .ofResult do
    let document ← parsed read path
    return .print (.success ((documentJson path document).pretty ++ "\n"))

/-- The files that a command reads, as far as the files that can be read tell. -/
def files (read : Reader) : Command → List String
  | .resolve choice _ _ _ => choice.files read
  | .validate choice _ => choice.files read
  | .explain choice _ => choice.files read
  | .parse path => [path]

/-- Run a command in a file system: what it shows, and the system it leaves. -/
def run {σ : Type} [FileSystem σ] (system : σ) (now : String) (command : Command) :
    Outcome × σ :=
  match command.answer (FileSystem.read system) now with
  | .print outcome => (outcome, system)
  | .save path text =>
    match FileSystem.write system path text.toUTF8.toList with
    | (.ok (), after) => (.success "", after)
    | (.error fault, after) => (.failure (.file path fault), after)

end Command

end LayeredFlags
