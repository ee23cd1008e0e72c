import LayeredFlags.Distinct
import LayeredFlags.Flag.Basic
import LayeredFlags.Flag.Error
import LayeredFlags.Text.Blank
/-!
# Layers

A layer has an identifier, a priority, and what it says of flags and constants. It says at
most one thing of each flag and of each constant, and its identifier is neither blank nor
the word that stands for no layer.
-/

namespace LayeredFlags

/-- The word for the source of a flag that no layer asserts. No layer may be called so. -/
def defaultSource : String := "default"

/-- A layer may have this identifier. -/
def LegalIdentifier (identifier : String) : Prop :=
  Text.isAllBlank identifier = false ∧ identifier ≠ defaultSource

instance (identifier : String) : Decidable (LegalIdentifier identifier) := by
  unfold LegalIdentifier
  infer_instance

/-- A partial override of flags and constants. Of two layers, the one with the higher
priority decides. -/
structure Layer where
  /-- The identifier, by which the layer is named as a source. -/
  identifier : String
  /-- The priority. -/
  priority : Int64
  /-- The asserted flags, in the order of their first assertion. -/
  assertions : List Assertion
  /-- The constants with values, in the order of their first setting. -/
  settings : List Setting
  /-- The identifier is neither blank nor reserved. -/
  legal : LegalIdentifier identifier
  /-- No flag is asserted twice. -/
  assertions_nodup : (assertions.map (·.flag)).Nodup
  /-- No constant is set twice. -/
  settings_nodup : (settings.map (·.name)).Nodup
deriving DecidableEq

namespace Layer

/-- Build a layer without settings. Of assertions that agree the first is kept, and two that
do not agree are an error. -/
def ofAssertions (identifier : String) (priority : Int64) (assertions : List Assertion) :
    Except FlagError Layer :=
  if legal : LegalIdentifier identifier then
    match h : mergeRepeats Assertion.flag [] assertions with
    | .error flag => .error (.duplicateAssertionInLayer identifier flag)
    | .ok merged =>
      .ok
        { identifier, priority, legal
          assertions := merged
          settings := []
          assertions_nodup := nodup_of_mergeRepeats_eq_ok h List.nodup_nil
          settings_nodup := List.nodup_nil }
  else .error (.invalidLayerIdentifier identifier)

/-- Add settings to a layer. Of settings that agree the first is kept, and two that do not
agree are an error. -/
def withSettings (layer : Layer) (settings : List Setting) : Except FlagError Layer :=
  match h : mergeRepeats Setting.name layer.settings settings with
  | .error name => .error (.duplicateAssertionInLayer layer.identifier name)
  | .ok merged =>
    .ok
      { layer with
        settings := merged
        settings_nodup := nodup_of_mergeRepeats_eq_ok h layer.settings_nodup }

/-- Build a layer from what it says, assertions before settings. -/
def build (identifier : String) (priority : Int64) (assertions : List Assertion)
    (settings : List Setting) : Except FlagError Layer := do
  (← ofAssertions identifier priority assertions).withSettings settings

/-- The state that the layer asserts for a flag, if it asserts one. -/
def stateOf? (layer : Layer) (flag : String) : Option FlagState :=
  (layer.assertions.find? (·.flag == flag)).map (·.state)

end Layer

end LayeredFlags
