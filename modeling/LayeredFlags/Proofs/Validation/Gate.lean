import LayeredFlags.Gate
import LayeredFlags.Proofs.Validation.Breach
/-!
# The Gate

The gate of a registry looks at the names and the states of the flags of a configuration, and
at nothing else.

## Main definitions

* `Configuration.assertions`: what a configuration says of its flags.

## Main results

* `Configuration.objection?_eq_none_iff`: what passes the gate;
* `Configuration.objection?_eq_none_congr`: only flags and states matter;
* `ValidConfiguration.ofConfiguration_eq_ok_iff`: the gate changes nothing.
-/

namespace LayeredFlags

/-- A configuration passes the gate of a registry exactly when it has the flags of the registry
in order and breaks none of its constraints. -/
theorem Configuration.objection?_eq_none_iff {configuration : Configuration}
    {registry : Registry} :
    configuration.objection? registry = none ↔
      configuration.flags = registry.names ∧ configuration.violations registry = [] := by
  unfold objection?
  cases hmismatch : firstMismatch? configuration.flags registry.names with
  | some flag =>
    have hne : configuration.flags ≠ registry.names := fun heq => by
      rw [firstMismatch?_eq_none_iff.2 heq] at hmismatch
      cases hmismatch
    simp [hne]
  | none =>
    rw [firstMismatch?_eq_none_iff] at hmismatch
    cases configuration.violations registry <;> simp [hmismatch]

/-- The gate lets through exactly the configurations that nothing is objected to, unchanged. -/
theorem ValidConfiguration.ofConfiguration_eq_ok_iff {configuration : Configuration}
    {registry : Registry} {valid : ValidConfiguration} :
    ofConfiguration configuration registry = .ok valid ↔
      configuration.objection? registry = none ∧ valid.configuration = configuration := by
  obtain ⟨inner, passed⟩ := valid
  unfold ofConfiguration
  split
  · next error h => simp [h]
  · next h =>
    simp only [Except.ok.injEq, ValidConfiguration.mk.injEq, h, true_and]
    exact eq_comm

namespace Configuration

/-- What a configuration says of its flags, without the sources. -/
def assertions (configuration : Configuration) : List Assertion :=
  configuration.entries.map fun entry => ⟨entry.flag, entry.state⟩

variable {configuration other : Configuration}

/-- The flags are those that are spoken of. -/
theorem map_flag_assertions (configuration : Configuration) :
    configuration.assertions.map (·.flag) = configuration.flags := by
  rw [assertions, List.map_map]
  rfl

/-- The state of a flag is the one that is said of it. -/
theorem stateOf?_eq_some_iff_mem_assertions {flag : String} {state : FlagState} :
    configuration.stateOf? flag = some state ↔ ⟨flag, state⟩ ∈ configuration.assertions := by
  rw [stateOf?_eq_some_iff, assertions, List.mem_map]
  simp only [Assertion.mk.injEq]

/-- Configurations that say the same of their flags have the same states. -/
theorem stateOf?_congr (h : configuration.assertions = other.assertions) (flag : String) :
    configuration.stateOf? flag = other.stateOf? flag := by
  refine Option.ext fun state => ?_
  rw [stateOf?_eq_some_iff_mem_assertions, stateOf?_eq_some_iff_mem_assertions, h]

/-- A constraint is broken exactly when the states of its two flags break it. -/
theorem breach?_isSome_iff {flag : String} {constraint : Constraint} :
    (configuration.breach? flag constraint).isSome ↔
      ∃ own target, configuration.stateOf? flag = some own ∧
        configuration.stateOf? constraint.target = some target ∧
        constraint.isBroken own target = true := by
  unfold breach? stateOf?
  cases configuration.find? flag with
  | none => simp
  | some entry =>
    cases configuration.find? constraint.target with
    | none => simp
    | some target =>
      by_cases hbroken : constraint.isBroken entry.state target.state <;> simp [hbroken]

/-- Configurations that say the same of their flags pass the same gates. -/
theorem objection?_eq_none_congr (h : configuration.assertions = other.assertions)
    {registry : Registry} :
    configuration.objection? registry = none ↔ other.objection? registry = none := by
  have hflags : configuration.flags = other.flags := by
    rw [← map_flag_assertions, h, map_flag_assertions]
  have hbreach : ∀ flag constraint, configuration.breach? flag constraint = none ↔
      other.breach? flag constraint = none := by
    intro flag constraint
    rw [← Option.not_isSome_iff_eq_none, ← Option.not_isSome_iff_eq_none, breach?_isSome_iff,
      breach?_isSome_iff]
    simp only [stateOf?_congr h]
  rw [objection?_eq_none_iff, objection?_eq_none_iff, violations_eq_nil_iff,
    violations_eq_nil_iff, hflags]
  simp only [hbreach]

end Configuration

end LayeredFlags
