import LayeredFlags.Configuration
/-!
# Validation

The declared constraints of a registry are checked against a configuration in the order of
the registry. A pair of flags that exclude each other is reported once, for the first of
its declarations. A constraint with an end that the configuration does not have is passed
over.
-/

namespace LayeredFlags

/-- The constraint is broken by the states of the flag that declares it and of the flag at
its other end. -/
def Constraint.isBroken (own other : FlagState) : Constraint → Bool
  | .excludes _ => own.isEnabled && other.isEnabled
  | .requires _ => own.isEnabled && !other.isEnabled

namespace Violation

/-- The two flags of a violation in a fixed order, whichever of them declares it. -/
def pair (violation : Violation) : String × String :=
  if violation.flag ≤ violation.otherFlag then (violation.flag, violation.otherFlag)
  else (violation.otherFlag, violation.flag)

end Violation

namespace Configuration

/-- The violation of one declared constraint, if it is broken. -/
def breach? (configuration : Configuration) (flag : String) (constraint : Constraint) :
    Option Violation :=
  match configuration.find? flag, configuration.find? constraint.target with
  | some entry, some other =>
    if constraint.isBroken entry.state other.state then
      some
        { flag := entry.flag
          kind := constraint.kind
          otherFlag := other.flag
          flagSource := entry.source
          otherSource := other.source }
    else none
  | _, _ => none

/-- The violations of some declared constraints. A pair of flags among `reported` is not
reported again as excluding each other. -/
def violationsAmong (configuration : Configuration) (reported : List (String × String)) :
    List (String × Constraint) → List Violation
  | [] => []
  | (flag, constraint) :: rest =>
    match configuration.breach? flag constraint with
    | none => configuration.violationsAmong reported rest
    | some violation =>
      match violation.kind with
      | .requires => violation :: configuration.violationsAmong reported rest
      | .excludes =>
        if violation.pair ∈ reported then configuration.violationsAmong reported rest
        else violation :: configuration.violationsAmong (violation.pair :: reported) rest

/-- Every violation of the constraints of a registry. -/
def violations (configuration : Configuration) (registry : Registry) : List Violation :=
  configuration.violationsAmong [] registry.declarations

end Configuration

end LayeredFlags
