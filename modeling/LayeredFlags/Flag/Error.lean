import LayeredFlags.Violation
/-!
# Errors about Flags

What can be wrong with a registry, a layer, a layer set, a resolution or a configuration.
-/

namespace LayeredFlags

/-- An error about flags. -/
inductive FlagError where
  /-- A look-up or a layer names a flag that the registry does not define. -/
  | unknownFlag (name : String) (layer : Option String)
  /-- A registry defines a flag twice. -/
  | duplicateFlagDefinition (name : String)
  /-- A constraint speaks of a flag that the registry does not define. -/
  | danglingConstraint (flag target : String)
  /-- A flag has a constraint on itself. -/
  | selfReferentialConstraint (flag : String)
  /-- Two layers have the same priority. -/
  | duplicatePriority (priority : Int64) (first second : String)
  /-- The identifier of a layer is blank or reserved. -/
  | invalidLayerIdentifier (layer : String)
  /-- Two layers have the same identifier. -/
  | duplicateLayerIdentifier (layer : String)
  /-- A layer says two different things of one name. -/
  | duplicateAssertionInLayer (layer flag : String)
  /-- A layer gives a value to a registered flag. -/
  | settingNamesFlag (layer name : String)
  /-- A configuration does not have exactly the flags of a registry, in its order. -/
  | registryMismatch (flag : String)
  /-- A configuration breaks constraints. -/
  | constraintViolation (violations : List Violation)
deriving DecidableEq, Repr

/-- The wording of an error. -/
def FlagError.message : FlagError → String
  | .unknownFlag name none => s!"unknown flag '{name}'"
  | .unknownFlag name (some layer) => s!"unknown flag '{name}' asserted by layer '{layer}'"
  | .duplicateFlagDefinition name => s!"flag '{name}' is defined more than once"
  | .danglingConstraint flag target =>
    s!"flag '{flag}' has a constraint on unregistered flag '{target}'"
  | .selfReferentialConstraint flag => s!"flag '{flag}' has a constraint on itself"
  | .duplicatePriority priority first second =>
    s!"layers '{first}' and '{second}' share priority {priority.toInt}"
  | .invalidLayerIdentifier layer => s!"layer identifier '{layer}' is empty or reserved"
  | .duplicateLayerIdentifier layer => s!"layer identifier '{layer}' is used more than once"
  | .duplicateAssertionInLayer layer flag =>
    s!"layer '{layer}' asserts '{flag}' with conflicting values"
  | .settingNamesFlag layer name =>
    s!"layer '{layer}' assigns a value to registered flag '{name}'"
  | .registryMismatch flag =>
    s!"configuration does not match the registry at flag '{flag}'"
  | .constraintViolation violations => s!"{violations.length} constraint violation(s)"

end LayeredFlags
