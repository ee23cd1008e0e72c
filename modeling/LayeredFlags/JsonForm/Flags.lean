import LayeredFlags.Configuration
import LayeredFlags.Json.Codec
/-!
# JSON Forms of Flags, Layers and Configurations

A record is written as an object, with its fields in the order of their declaration. It is
read from such an object, whatever the order, from one with further fields, or from an array
of the values of its fields.
-/

namespace LayeredFlags

open JsonCodec

instance : JsonCodec FlagState where
  encode state := .string state.toText
  decode? json := json.choice?.bind FlagState.ofText?

instance : JsonCodec ConstraintKind where
  encode kind := .string kind.toText
  decode? json := json.choice?.bind ConstraintKind.ofText?

instance : JsonCodec Constraint where
  encode
    | .excludes target => .object [("excludes", encode target)]
    | .requires target => .object [("requires", encode target)]
  decode?
    | .object [(name, target)] =>
      if name = "excludes" then Constraint.excludes <$> decode? target
      else if name = "requires" then Constraint.requires <$> decode? target
      else none
    | _ => none

instance : JsonCodec FlagDefinition where
  encode definition := .object
    [("name", encode definition.name),
      ("default_state", encode definition.defaultState),
      ("description", encode definition.description),
      ("constraints", encode definition.constraints)]
  decode? json := do
    let record ←
      json.record? false ["name", "default_state", "description", "constraints"]
    return {
      name := ← required? record "name"
      defaultState := ← required? record "default_state"
      description := ← optional? record "description" ""
      constraints := ← optional? record "constraints" [] }

instance : JsonCodec Assertion where
  encode assertion := .object
    [("flag_name", encode assertion.flag), ("state", encode assertion.state)]
  decode? json := do
    let record ← json.record? false ["flag_name", "state"]
    return { flag := ← required? record "flag_name", state := ← required? record "state" }

instance : JsonCodec Setting where
  encode setting := .object
    [("name", encode setting.name), ("value", encode setting.value)]
  decode? json := do
    let record ← json.record? false ["name", "value"]
    return { name := ← required? record "name", value := ← required? record "value" }

instance : JsonCodec Violation where
  encode violation := .object
    [("flag", encode violation.flag),
      ("kind", encode violation.kind),
      ("other_flag", encode violation.otherFlag),
      ("flag_source", encode violation.flagSource),
      ("other_source", encode violation.otherSource)]
  decode? json := do
    let record ←
      json.record? false ["flag", "kind", "other_flag", "flag_source", "other_source"]
    return {
      flag := ← required? record "flag"
      kind := ← required? record "kind"
      otherFlag := ← required? record "other_flag"
      flagSource := ← required? record "flag_source"
      otherSource := ← required? record "other_source" }

/-- The JSON form of a layer. -/
def Layer.toJson (layer : Layer) : Json :=
  .object
    [("identifier", encode layer.identifier),
      ("priority", encode layer.priority),
      ("assertions", encode layer.assertions),
      ("settings", encode layer.settings)]

/-- The JSON form of an entry, in which an empty list of overridden layers is left out. -/
def Entry.toJson (entry : Entry) : Json :=
  .object <|
    [("flag_name", encode entry.flag),
      ("final_state", encode entry.state),
      ("source", encode entry.source)] ++
    if entry.overridden.isEmpty then [] else [("overridden", encode entry.overridden)]

/-- The JSON form of a setting with its source. -/
def ResolvedSetting.toJson (setting : ResolvedSetting) : Json :=
  .object
    [("name", encode setting.name),
      ("value", encode setting.value),
      ("source", encode setting.source)]

/-- The JSON form of a configuration. -/
def Configuration.toJson (configuration : Configuration) : Json :=
  .object
    [("entries", .array (configuration.entries.map Entry.toJson)),
      ("settings", .array (configuration.settings.map ResolvedSetting.toJson))]

end LayeredFlags
