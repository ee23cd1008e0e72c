import LayeredFlags.Json.Printer
import LayeredFlags.JsonForm.Flags
import LayeredFlags.Output.Header
/-!
# Rendering

A configuration that has passed the gate is rendered as a header, plain or annotated, or as a
listing. A listing gives the flags and the settings of the configuration as one JSON object, each
with its source.
-/

namespace LayeredFlags

open JsonCodec

/-- A flag in a listing. -/
def Entry.listed (entry : Entry) : Json :=
  .object
    [("name", encode entry.flag),
      ("state", encode entry.state),
      ("source", encode entry.source)]

/-- The listing of a configuration as a JSON value. -/
def Configuration.listed (configuration : Configuration) : Json :=
  .object
    [("flags", .array (configuration.entries.map Entry.listed)),
      ("settings", .array (configuration.settings.map ResolvedSetting.toJson))]

/-- The listing of a configuration. -/
def ValidConfiguration.listing (valid : ValidConfiguration) : String :=
  valid.configuration.listed.pretty

/-- The formats of the output. -/
inductive OutputFormat where
  /-- A header for the preprocessor. -/
  | header
  /-- A JSON listing. -/
  | json
deriving DecidableEq, Repr

/-- Render a configuration. Only a header can be annotated. -/
def ValidConfiguration.render (valid : ValidConfiguration) (registry : Registry)
    (format : OutputFormat) (annotate : Bool) : String :=
  match format with
  | .header => if annotate then valid.annotatedHeader registry else valid.header
  | .json => valid.listing

end LayeredFlags
