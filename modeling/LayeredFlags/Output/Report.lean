import LayeredFlags.Digest.Sha256
import LayeredFlags.Json.Canonical
import LayeredFlags.JsonForm.Flags
import LayeredFlags.Stack.LayerSource
import LayeredFlags.Text.Lines
/-!
# Reports

A report tells where the state of every flag and the value of every setting come from, which
constraints are broken, and the fingerprint of the configuration, which is the SHA-256
digest of its canonical JSON text. It is written as JSON or as text for readers.
-/

namespace LayeredFlags

open JsonCodec

/-- The bytes of the canonical JSON text of a configuration. -/
def Configuration.canonicalBytes (configuration : Configuration) : List UInt8 :=
  configuration.toJson.canonicalText.toUTF8.toList

/-- The digest of these bytes, in hexadecimal. -/
def Configuration.fingerprint (configuration : Configuration) : String :=
  Sha256.hexDigest configuration.canonicalBytes

/-- A report on a configuration. -/
structure Report where
  /-- The time of the report. -/
  createdAt : String
  /-- The fingerprint of the configuration. -/
  fingerprint : String
  /-- The sources of the layers, lowest priority first. -/
  sources : List LayerSource
  /-- The entries of the configuration. -/
  entries : List Entry
  /-- The settings of the configuration. -/
  settings : List ResolvedSetting
  /-- The broken constraints. -/
  violations : List Violation

namespace Report

/-- The report on a configuration with the given violations and sources. -/
def ofConfiguration (createdAt : String) (configuration : Configuration)
    (violations : List Violation) (sources : List LayerSource) : Report :=
  { createdAt, violations, sources
    fingerprint := configuration.fingerprint
    entries := configuration.entries
    settings := configuration.settings }

/-- No constraint is broken. -/
def isValid (report : Report) : Bool :=
  report.violations.isEmpty

/-- The JSON form of a report. -/
def toJson (report : Report) : Json :=
  .object
    [("schema_version", .integer 1),
      ("schema_id", .string "flagstack/resolution@1"),
      ("created_at", .string report.createdAt),
      ("fingerprint", .string report.fingerprint),
      ("sources", encode report.sources),
      ("entries", .array (report.entries.map Entry.toJson)),
      ("settings", .array (report.settings.map ResolvedSetting.toJson)),
      ("violations", encode report.violations),
      ("valid", .bool report.isValid)]

/-- The number of flags that no layer asserts. -/
def defaultCount (report : Report) : Nat :=
  report.entries.countP (·.source == defaultSource)

/-- The number of flags that some layer asserts. -/
def layeredCount (report : Report) : Nat :=
  report.entries.length - report.defaultCount

/-- The width of the column of names: the size of the longest in UTF-8. -/
def nameWidth (report : Report) : Nat :=
  (report.entries.map (·.flag.utf8ByteSize)).foldl max 0

/-- The line of a source. -/
def sourceLine (source : LayerSource) : String :=
  let priority := Text.padStart 6 (toString source.priority.toInt)
  let counts := s!"({source.assertions} assertions, {source.settings} settings)"
  s!"  {priority}  {source.id}  {source.path} {counts}"

/-- The line of an entry, with the name set in a column of the given width. -/
def entryLine (width : Nat) (entry : Entry) : String :=
  let overrides :=
    if entry.overridden.isEmpty then ""
    else " (overrides " ++ ", ".intercalate entry.overridden ++ ")"
  let name := Text.padEnd width entry.flag
  let state := Text.padEnd 8 entry.state.toText
  s!"  {name}  {state}  {entry.source}{overrides}"

/-- The line of a setting. -/
def settingLine (setting : ResolvedSetting) : String :=
  s!"  {setting.name} = {setting.value}  {setting.source}"

/-- The line of a violation. -/
def violationLine (violation : Violation) : String :=
  s!"  - {violation.message}"

/-- The lines of a report for readers. -/
def humanLines (report : Report) : List String :=
  let sources :=
    if report.sources.isEmpty then ["  (none)"] else report.sources.map sourceLine
  let settings :=
    if report.settings.isEmpty then []
    else "" :: "Settings:" :: report.settings.map settingLine
  let result :=
    if report.isValid then ["Result: VALID"]
    else
      s!"Result: INVALID ({report.violations.length} violation(s))" ::
        report.violations.map violationLine
  let total := report.entries.length
  [s!"Fingerprint: {report.fingerprint}", "", "Layers (lowest priority first):"] ++ sources ++
    ["", "Flags:"] ++ report.entries.map (entryLine report.nameWidth) ++ settings ++
    "" :: result ++
    [s!"{total} flags, {report.layeredCount} from layers, {report.defaultCount} defaults"]

/-- The report for readers. -/
def toHuman (report : Report) : String :=
  "\n".intercalate report.humanLines

end Report

end LayeredFlags
