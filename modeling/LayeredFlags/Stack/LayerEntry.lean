import LayeredFlags.Json.Codec
import LayeredFlags.Layer
import LayeredFlags.Text.Integer
import LayeredFlags.Toml.Record
/-!
# Layer Entries

An entry says which layer a stack has, at which priority, and in which file. It is written in
a manifest, or as one text with colons between its parts.
-/

namespace LayeredFlags

open JsonCodec

/-- A layer that a stack is to have. -/
structure LayerEntry where
  /-- The identifier of the layer. -/
  id : String
  /-- The priority of the layer. -/
  priority : Int64
  /-- The path of the file of the layer. -/
  path : String
deriving DecidableEq, Repr

instance : JsonCodec LayerEntry where
  encode entry := .object
    [("id", encode entry.id),
      ("priority", encode entry.priority),
      ("path", encode entry.path)]
  decode? json := do
    let record ← json.record? true ["id", "priority", "path"]
    return {
      id := ← required? record "id"
      priority := ← required? record "priority"
      path := ← required? record "path" }

/-- Why a text is not that of a layer entry. -/
inductive LayerSpecError where
  /-- The text has fewer than two colons. -/
  | missingPart (spec : String)
  /-- What stands between the first two colons is not a number of 64 bits. -/
  | invalidPriority (text : String) (error : Text.IntegerError)
deriving DecidableEq, Repr

/-- The wording of an error. -/
def LayerSpecError.message : LayerSpecError → String
  | .missingPart spec => s!"expected ID:PRIORITY:PATH, got '{spec}'"
  | .invalidPriority text error => s!"invalid priority '{text}': {error.message}"

namespace LayerEntry

/-- What stands before the first colon of a text and what stands after it. -/
def cutColon : List Char → Option (List Char × List Char)
  | [] => none
  | c :: rest =>
    if c = ':' then some ([], rest)
    else (cutColon rest).map fun (before, after) => (c :: before, after)

/-- Read the text of an entry: the identifier, the priority and the path, with colons between
them. The path may hold further colons. -/
def ofSpec (spec : String) : Except LayerSpecError LayerEntry :=
  match cutColon spec.toList with
  | none => .error (.missingPart spec)
  | some (id, rest) =>
    match cutColon rest with
    | none => .error (.missingPart spec)
    | some (priority, path) =>
      match Text.readInt64 priority with
      | .error error => .error (.invalidPriority (String.ofList priority) error)
      | .ok number =>
        .ok { id := String.ofList id, priority := number, path := String.ofList path }

/-- The text of an entry. -/
def toSpec (entry : LayerEntry) : String :=
  s!"{entry.id}:{entry.priority.toInt}:{entry.path}"

/-- The form of an entry in a manifest. -/
def layout : Toml.Layout :=
  { title := "struct LayerEntry"
    fields :=
      [("id", Toml.checked Toml.readString),
        ("priority", Toml.checked Toml.readInteger),
        ("path", Toml.checked Toml.readPath)] }

/-- Read an entry of a manifest. -/
def ofToml : Toml.Reading LayerEntry := fun value => do
  let record ← layout.record value
  return {
    id := ← layout.required "id" Toml.readString record
    priority := ← layout.required "priority" Toml.readInteger record
    path := ← layout.required "path" Toml.readPath record }

end LayerEntry

end LayeredFlags
