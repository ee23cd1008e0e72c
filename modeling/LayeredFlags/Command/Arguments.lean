import LayeredFlags.Command.Basic
import LayeredFlags.Command.Grammar
/-!
# Arguments

The arguments name one of four commands and give it options. A stack is named by a manifest,
or else by a catalog with any number of layers, and without either by the manifest of the
working directory.
-/

namespace LayeredFlags.Command

/-- What was read of the arguments of a command. -/
structure Draft where
  /-- Logs are to be JSON. -/
  jsonLogs : Bool := false
  /-- The path of the manifest. -/
  manifest : Option String := none
  /-- The path of the catalog. -/
  catalog : Option String := none
  /-- The layers. -/
  layers : List LayerEntry := []
  /-- The format of the output. -/
  format : Option OutputFormat := none
  /-- A header is to be annotated. -/
  annotate : Bool := false
  /-- The path of the output. -/
  output : Option String := none
  /-- A report is to be JSON. -/
  json : Bool := false
  /-- A report is for readers. -/
  human : Bool := false
  /-- The path of a layer text. -/
  path : Option String := none

/-- Give a value that may be given once. -/
def once {α : Type} (given : Option α) (value : α) : Except Stop (Option α) :=
  if given.isSome then .error .usage else .ok (some value)

/-- Turn on what may be turned on once. -/
def turnOn (given : Bool) : Except Stop Bool :=
  if given then .error .usage else .ok true

/-- A path that is given. It has to have some text. -/
def legalPath (path : String) : Except Stop String :=
  if path.isEmpty then .error .usage else .ok path

/-- The format that a text names. -/
def formatOfText? (text : String) : Option OutputFormat :=
  if text = "header" then some .header else if text = "json" then some .json else none

/-- The option that asks for help. -/
def helpOption : OptionForm Draft :=
  ⟨"help", some 'h', .switch fun _ => .error .help⟩

/-- The options for logs, which may be given before and after the name of the command. -/
def logOptions : List (OptionForm Draft) :=
  [⟨"verbose", some 'v', .switch .ok⟩,
    ⟨"json-logs", none, .switch fun draft => do
      return { draft with jsonLogs := ← turnOn draft.jsonLogs }⟩,
    helpOption]

/-- The options that name a stack. -/
def stackOptions : List (OptionForm Draft) :=
  [⟨"manifest", some 'm', .value fun path draft => do
      return { draft with manifest := ← once draft.manifest (← legalPath path) }⟩,
    ⟨"catalog", some 'c', .value fun path draft => do
      return { draft with catalog := ← once draft.catalog (← legalPath path) }⟩,
    ⟨"layer", some 'l', .value fun spec draft =>
      match LayerEntry.ofSpec spec with
      | .ok entry => .ok { draft with layers := draft.layers ++ [entry] }
      | .error _ => .error .usage⟩]

/-- The options that say what is to be written, and where. -/
def outputOptions : List (OptionForm Draft) :=
  [⟨"format", some 'f', .value fun text draft =>
      match formatOfText? text with
      | some format => do return { draft with format := ← once draft.format format }
      | none => .error .usage⟩,
    ⟨"annotate", none, .switch fun draft => do
      return { draft with annotate := ← turnOn draft.annotate }⟩,
    ⟨"output", some 'o', .value fun path draft => do
      return { draft with output := ← once draft.output (← legalPath path) }⟩]

/-- The option for a report as JSON. -/
def jsonOption : OptionForm Draft :=
  ⟨"json", none, .switch fun draft => do return { draft with json := ← turnOn draft.json }⟩

/-- The option for a report for readers. -/
def humanOption : OptionForm Draft :=
  ⟨"human", none, .switch fun draft => do return { draft with human := ← turnOn draft.human }⟩

/-- A grammar with some options and without operands. -/
def grammarOf (options : List (OptionForm Draft)) : Grammar Draft :=
  { options, operand := fun _ _ => .error .usage }

/-- What may stand before the name of a command. -/
def leadingGrammar : Grammar Draft :=
  grammarOf (⟨"version", some 'V', .switch fun _ => .error .version⟩ :: logOptions)

/-- A grammar whose one operand is a path. -/
def pathGrammar : Grammar Draft :=
  { options := logOptions
    operand := fun path draft => do
      return { draft with path := ← once draft.path (← legalPath path) } }

/-- The stack that the arguments name. A manifest excludes catalog and layers, and layers
need a catalog. -/
def Draft.stack (draft : Draft) : Except Stop StackChoice :=
  match draft.manifest, draft.catalog, draft.layers with
  | some path, none, [] => .ok (.manifest path)
  | some _, _, _ => .error .usage
  | none, some catalog, layers => .ok (.parts catalog layers)
  | none, none, [] => .ok (.manifest defaultManifest)
  | none, none, _ :: _ => .error .usage

/-- The names that help can be asked for. -/
def names : List String :=
  ["resolve", "validate", "explain", "parse", "help"]

/-- Read the arguments after the name of a command. -/
def ofName (name : String) (arguments : List String) : Except Stop Command :=
  if name = "resolve" then do
    let draft ← (grammarOf (logOptions ++ stackOptions ++ outputOptions)).read {} arguments
    return .resolve (← draft.stack) (draft.format.getD .header) draft.annotate draft.output
  else if name = "validate" then do
    let draft ← (grammarOf (logOptions ++ stackOptions ++ [jsonOption])).read {} arguments
    return .validate (← draft.stack) draft.json
  else if name = "explain" then do
    let draft ← (grammarOf (logOptions ++ stackOptions ++ [humanOption])).read {} arguments
    return .explain (← draft.stack) draft.human
  else if name = "parse" then do
    match (← pathGrammar.read {} arguments).path with
    | some path => return .parse path
    | none => .error .usage
  else if name = "help" then
    match arguments with
    | [] => .error .help
    | [topic] => if topic ∈ names then .error .help else .error .usage
    | _ => .error .usage
  else .error .usage

/-- Read the arguments of the program: options for logs, the name of a command, and what
belongs to it. No command can be named after a lone `--`. -/
def ofArguments (arguments : List String) : Except Stop Command :=
  -- The options before the name have no values, so the name is the first operand.
  let leading := arguments.takeWhile isOption
  match leadingGrammar.read {} leading, arguments.dropWhile isOption with
  | .error stop, _ => .error stop
  | .ok _, [] => .error .usage
  | .ok _, name :: rest =>
    if "--" ∈ leading then .error .usage else ofName name rest

end LayeredFlags.Command
