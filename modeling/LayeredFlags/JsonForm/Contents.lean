import LayeredFlags.Json.Fields
import LayeredFlags.JsonForm.Flags
import LayeredFlags.Stack.LayerSource
/-!
# What JSON Forms Tell

What a JSON form of a flag, a setting, a violation or a source tells of it, read field by field.
-/

namespace LayeredFlags

/-- The state that a JSON form tells of. -/
def FlagState.ofJson? (json : Json) : Option FlagState :=
  json.text?.bind ofText?

/-- The kind of constraint that a JSON form tells of. -/
def ConstraintKind.ofJson? (json : Json) : Option ConstraintKind :=
  json.text?.bind ofText?

/-- The assertion that a JSON form tells of. -/
def Assertion.ofJson? (json : Json) : Option Assertion := do
  return {
    flag := ← json.at? "flag_name" Json.text?
    state := ← json.at? "state" FlagState.ofJson? }

/-- The setting that a JSON form tells of. -/
def Setting.ofJson? (json : Json) : Option Setting := do
  return {
    name := ← json.at? "name" Json.text?
    value := ← json.at? "value" Json.text? }

/-- The entry that a JSON form tells of. No overridden layers are told of by leaving them out. -/
def Entry.ofJson? (json : Json) : Option Entry := do
  return {
    flag := ← json.at? "flag_name" Json.text?
    state := ← json.at? "final_state" FlagState.ofJson?
    source := ← json.at? "source" Json.text?
    overridden := ← json.atOr? [] "overridden" (Json.items? Json.text?) }

/-- The name, the state and the source of the flag that a listing tells of. -/
def Entry.ofListed? (json : Json) : Option (String × FlagState × String) := do
  return (← json.at? "name" Json.text?, ← json.at? "state" FlagState.ofJson?,
    ← json.at? "source" Json.text?)

/-- The setting with its source that a JSON form tells of. -/
def ResolvedSetting.ofJson? (json : Json) : Option ResolvedSetting := do
  return {
    name := ← json.at? "name" Json.text?
    value := ← json.at? "value" Json.text?
    source := ← json.at? "source" Json.text? }

/-- The violation that a JSON form tells of. -/
def Violation.ofJson? (json : Json) : Option Violation := do
  return {
    flag := ← json.at? "flag" Json.text?
    kind := ← json.at? "kind" ConstraintKind.ofJson?
    otherFlag := ← json.at? "other_flag" Json.text?
    flagSource := ← json.at? "flag_source" Json.text?
    otherSource := ← json.at? "other_source" Json.text? }

/-- The source of a layer that a JSON form tells of. -/
def LayerSource.ofJson? (json : Json) : Option LayerSource := do
  return {
    id := ← json.at? "id" Json.text?
    priority := ← json.at? "priority" JsonCodec.decode?
    path := ← json.at? "path" Json.text?
    digest := ← json.at? "digest" Json.text?
    assertions := ← json.at? "assertions" Json.count?
    settings := ← json.at? "settings" Json.count? }

end LayeredFlags
