import LayeredFlags.Gate
import LayeredFlags.Text.Lines
/-!
# Headers

A header has one preprocessor line for every flag, `#define` for an enabled one and `#undef`
for a disabled one, and after a blank line one `#define` with a value for every setting. An
annotated header opens with a notice, and every line of a flag ends with a comment that
holds the description of the flag and the layer that decided its state.
-/

namespace LayeredFlags

/-- The keyword of the line of a flag. The shorter one is filled up with a space. -/
def FlagState.directive : FlagState → String
  | .enabled => "#define"
  | .disabled => "#undef "

/-- The width of the column of names in an annotated header. -/
def nameColumn : Nat := 22

namespace Entry

/-- The line of a flag. -/
def headerLine (entry : Entry) : String :=
  s!"{entry.state.directive} {entry.flag}\n"

/-- What the comment on a flag says: its description in the registry, if it has one, and the
source of its state. -/
def note (registry : Registry) (entry : Entry) : String :=
  let description := match registry.find? entry.flag with
    | some definition => definition.description
    | none => ""
  if description = "" then s!"[{entry.source}]" else s!"{description} [{entry.source}]"

/-- The line of a flag with a comment. -/
def annotatedLine (registry : Registry) (entry : Entry) : String :=
  s!"{entry.state.directive} {Text.padEnd nameColumn entry.flag} /* {entry.note registry} */\n"

end Entry

/-- The line of a setting. -/
def ResolvedSetting.headerLine (setting : ResolvedSetting) : String :=
  s!"#define {setting.name} {setting.value}\n"

namespace Configuration

/-- The lines of the settings, after a blank line if there are any. -/
def settingLines (configuration : Configuration) : String :=
  if configuration.settings.isEmpty then ""
  else "\n" ++ String.join (configuration.settings.map ResolvedSetting.headerLine)

end Configuration

namespace ValidConfiguration

/-- The plain header. -/
def header (valid : ValidConfiguration) : String :=
  String.join (valid.configuration.entries.map Entry.headerLine) ++
    valid.configuration.settingLines

/-- The notice at the top of an annotated header. -/
def notice : String :=
  "/* Generated by flagstack. Do not edit. */\n\n"

/-- The header with a comment on every flag, described as in the given registry. -/
def annotatedHeader (registry : Registry) (valid : ValidConfiguration) : String :=
  notice ++ String.join (valid.configuration.entries.map (Entry.annotatedLine registry)) ++
    valid.configuration.settingLines

end ValidConfiguration

end LayeredFlags
