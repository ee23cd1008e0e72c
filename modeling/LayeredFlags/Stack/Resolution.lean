import LayeredFlags.Configuration
import LayeredFlags.Output.Rendering
import LayeredFlags.Output.Report
import LayeredFlags.Stack.Loading
/-!
# Resolving a Stack

A stack is resolved to a configuration together with the constraints that it breaks. It is
rendered only if it breaks none.
-/

namespace LayeredFlags

/-- The configuration that a stack resolves to. -/
structure Resolution where
  /-- The configuration. -/
  configuration : Configuration
  /-- The broken constraints. -/
  violations : List Violation
deriving DecidableEq

namespace Resolution

/-- No constraint is broken. -/
def isValid (resolution : Resolution) : Bool :=
  resolution.violations.isEmpty

/-- Let the configuration pass the gate of a registry. The violations found before are
reported first. -/
def approve (resolution : Resolution) (registry : Registry) :
    Except FlagError ValidConfiguration :=
  if resolution.isValid then ValidConfiguration.ofConfiguration resolution.configuration registry
  else .error (.constraintViolation resolution.violations)

end Resolution

namespace Stack

/-- Resolve a stack and check the constraints of its registry. -/
def resolve (stack : Stack) : Except FlagError Resolution := do
  let configuration ← stack.registry.resolve stack.layers
  return { configuration, violations := configuration.violations stack.registry }

/-- The report on a resolution of a stack. -/
def report (stack : Stack) (createdAt : String) (resolution : Resolution) : Report :=
  Report.ofConfiguration createdAt resolution.configuration resolution.violations stack.sources

/-- Resolve a stack and render its configuration. -/
def render (stack : Stack) (format : OutputFormat) (annotate : Bool) :
    Except FlagError String := do
  let valid ← (← stack.resolve).approve stack.registry
  return valid.render stack.registry format annotate

end Stack

end LayeredFlags
