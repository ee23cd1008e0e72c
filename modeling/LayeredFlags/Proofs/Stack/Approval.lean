import LayeredFlags.Proofs.Resolution.Layer
import LayeredFlags.Proofs.Validation.Verdict
import LayeredFlags.Stack.Resolution
/-!
# Approval

A resolution carries the violations that were found when it was made, and it is approved for a
registry if there are none and the gate of that registry lets it through. For the registry of
the stack the second question adds nothing: resolution gives a configuration exactly the flags
of its registry, and the gate finds the violations that were found before. For another registry
the two questions are independent.

## Main definitions

* `Resolution.Approval`: how approval and the gate stand to each other, and what is rendered.

## Main results

* `Configuration.objection?_of_resolve`: what a registry objects to a configuration resolved
  from it;
* `Stack.approve_own`: approval for the registry of the stack is its gate;
* `Stack.render_of_resolve`: what is rendered of a stack;
* `Stack.approval_of_resolve`: all of it for every stack that can be resolved.
-/

namespace LayeredFlags

/-- How the approval of a resolution stands to the gates of the registries, and what becomes of
the stack when it is rendered. -/
structure Resolution.Approval (stack : Stack) (resolution : Resolution) : Prop where
  /-- For every registry, a configuration is approved exactly when no violation was found before
  and the gate lets it through, and it is what the gate lets through. -/
  approve_eq_ok_iff : ∀ registry valid, resolution.approve registry = .ok valid ↔
    resolution.violations = [] ∧
      ValidConfiguration.ofConfiguration resolution.configuration registry = .ok valid
  /-- Violations found before are the answer for every registry, also for one whose gate would
  answer something else. -/
  approve_of_violations : resolution.violations ≠ [] → ∀ registry,
    resolution.approve registry = .error (.constraintViolation resolution.violations)
  /-- For the registry of the stack, approval and the gate have one answer. -/
  approve_own : resolution.approve stack.registry =
    ValidConfiguration.ofConfiguration resolution.configuration stack.registry
  /-- That answer is never that the flags are others. -/
  approve_ne_mismatch : ∀ flag,
    resolution.approve stack.registry ≠ .error (.registryMismatch flag)
  /-- The configuration is the one that the registry resolves the layers to. -/
  resolved : stack.registry.resolve stack.layers = .ok resolution.configuration
  /-- In every format, rendering fails exactly when that configuration breaks constraints, and
  then with all of its violations. -/
  render_eq_error_iff : ∀ format annotate error, stack.render format annotate = .error error ↔
    resolution.configuration.violations stack.registry ≠ [] ∧
      error = .constraintViolation (resolution.configuration.violations stack.registry)
  /-- Otherwise the configuration passes the gate and is rendered. -/
  render_eq_ok : resolution.configuration.violations stack.registry = [] →
    ∃ valid, ValidConfiguration.ofConfiguration resolution.configuration stack.registry =
        .ok valid ∧
      ∀ format annotate,
        stack.render format annotate = .ok (valid.render stack.registry format annotate)

/-! ## A configuration at the gate of its own registry -/

section OwnGate

variable {registry : Registry} {layerSet : LayerSet} {configuration : Configuration}

/-- The registry that a configuration is resolved from objects to its violations only. -/
theorem Configuration.objection?_of_resolve
    (h : registry.resolve layerSet = .ok configuration) {error : FlagError} :
    configuration.objection? registry = some error ↔
      configuration.violations registry ≠ [] ∧
        error = .constraintViolation (configuration.violations registry) := by
  have hflags : configuration.flags = registry.names := Registry.flags_of_resolve h
  constructor
  · intro hobjection
    exact (objection?_of_flags_eq hflags hobjection).symm
  · rintro ⟨hviolations, rfl⟩
    cases hobjection : configuration.objection? registry with
    | none => exact absurd (objection?_eq_none_iff.1 hobjection).2 hviolations
    | some error => rw [(objection?_of_flags_eq hflags hobjection).1]

/-- So its gate refuses a configuration for violations only. -/
theorem ValidConfiguration.ofConfiguration_eq_error_iff_of_resolve
    (h : registry.resolve layerSet = .ok configuration) {error : FlagError} :
    ofConfiguration configuration registry = .error error ↔
      configuration.violations registry ≠ [] ∧
        error = .constraintViolation (configuration.violations registry) := by
  rw [ofConfiguration_eq_error_iff, Configuration.objection?_of_resolve h]

/-- And it lets through a configuration without violations. -/
theorem ValidConfiguration.exists_ofConfiguration_eq_ok_of_resolve
    (h : registry.resolve layerSet = .ok configuration)
    (hviolations : configuration.violations registry = []) :
    ∃ valid, ofConfiguration configuration registry = .ok valid := by
  cases houtcome : ofConfiguration configuration registry with
  | ok valid => exact ⟨valid, rfl⟩
  | error error =>
    exact absurd hviolations ((ofConfiguration_eq_error_iff_of_resolve h).1 houtcome).1

end OwnGate

/-! ## Resolutions of a stack -/

variable {stack : Stack} {resolution : Resolution}

/-- A stack is resolved to the configuration of its registry and its layers, with the violations
of its registry. -/
theorem Stack.resolve_eq_ok_iff :
    stack.resolve = .ok resolution ↔
      stack.registry.resolve stack.layers = .ok resolution.configuration ∧
        resolution.violations = resolution.configuration.violations stack.registry := by
  obtain ⟨configuration, violations⟩ := resolution
  simp only [resolve, bind_eq_ok_iff, pure_eq_ok, Except.ok.injEq, Resolution.mk.injEq]
  constructor
  · rintro ⟨_, hresolve, rfl, rfl⟩
    exact ⟨hresolve, rfl⟩
  · rintro ⟨hresolve, rfl⟩
    exact ⟨configuration, hresolve, rfl, rfl⟩

/-- Without violations, approval is the gate. -/
theorem Resolution.approve_of_eq_nil (h : resolution.violations = []) (registry : Registry) :
    resolution.approve registry =
      ValidConfiguration.ofConfiguration resolution.configuration registry := by
  rw [approve, isValid, h, List.isEmpty_nil, if_pos rfl]

/-- With violations, these are the answer. -/
theorem Resolution.approve_of_ne_nil (h : resolution.violations ≠ []) (registry : Registry) :
    resolution.approve registry = .error (.constraintViolation resolution.violations) := by
  rw [approve, isValid, if_neg (by simpa using h)]

/-- A resolution is approved exactly when it has no violations and passes the gate. -/
theorem Resolution.approve_eq_ok_iff {registry : Registry} {valid : ValidConfiguration} :
    resolution.approve registry = .ok valid ↔ resolution.violations = [] ∧
      ValidConfiguration.ofConfiguration resolution.configuration registry = .ok valid := by
  by_cases h : resolution.violations = []
  · rw [approve_of_eq_nil h]
    exact (and_iff_right h).symm
  · rw [approve_of_ne_nil h]
    simp [h]

/-- For the registry of the stack, approval and the gate have one answer. -/
theorem Stack.approve_own (h : stack.resolve = .ok resolution) :
    resolution.approve stack.registry =
      ValidConfiguration.ofConfiguration resolution.configuration stack.registry := by
  obtain ⟨hresolve, hviolations⟩ := resolve_eq_ok_iff.1 h
  by_cases hnil : resolution.violations = []
  · exact Resolution.approve_of_eq_nil hnil stack.registry
  · rw [Resolution.approve_of_ne_nil hnil, eq_comm,
      ValidConfiguration.ofConfiguration_eq_error_iff_of_resolve hresolve, ← hviolations]
    exact ⟨hnil, rfl⟩

/-- What is rendered of a stack that can be resolved is what passes its gate. -/
theorem Stack.render_of_resolve (h : stack.resolve = .ok resolution) (format : OutputFormat)
    (annotate : Bool) :
    stack.render format annotate =
      (ValidConfiguration.ofConfiguration resolution.configuration stack.registry).map
        (·.render stack.registry format annotate) := by
  rw [render, h, ok_bind, approve_own h]
  cases ValidConfiguration.ofConfiguration resolution.configuration stack.registry <;> rfl

/-- Of every stack that can be resolved: approval and the gates, and what is rendered. -/
theorem Stack.approval_of_resolve (h : stack.resolve = .ok resolution) :
    resolution.Approval stack := by
  obtain ⟨hresolve, -⟩ := resolve_eq_ok_iff.1 h
  have herror : ∀ error,
      ValidConfiguration.ofConfiguration resolution.configuration stack.registry =
          .error error ↔
        resolution.configuration.violations stack.registry ≠ [] ∧
          error = .constraintViolation (resolution.configuration.violations stack.registry) :=
    fun _ => ValidConfiguration.ofConfiguration_eq_error_iff_of_resolve hresolve
  refine
    { approve_eq_ok_iff := fun _ _ => Resolution.approve_eq_ok_iff
      approve_of_violations := fun hviolations => Resolution.approve_of_ne_nil hviolations
      approve_own := approve_own h
      approve_ne_mismatch := fun flag hmismatch => ?_
      resolved := hresolve
      render_eq_error_iff := fun format annotate error => ?_
      render_eq_ok := fun hviolations => ?_ }
  · rw [approve_own h, herror] at hmismatch
    cases hmismatch.2
  · rw [render_of_resolve h, ← herror]
    cases ValidConfiguration.ofConfiguration resolution.configuration stack.registry <;>
      simp [Except.map]
  · obtain ⟨valid, hvalid⟩ :=
      ValidConfiguration.exists_ofConfiguration_eq_ok_of_resolve hresolve hviolations
    refine ⟨valid, hvalid, fun format annotate => ?_⟩
    rw [render_of_resolve h, hvalid]
    rfl

/-- A stack of two flags that exclude each other, and of one layer that enables the second. -/
def bothShells : Stack :=
  { registry :=
      { definitions := [⟨"BASH", .enabled, "", [.excludes "FISH"]⟩, ⟨"FISH", .disabled, "", []⟩]
        names_nodup := by decide
        targets_mem := by decide }
    layers :=
      { layers :=
          [ { identifier := "host", priority := 3, assertions := [⟨"FISH", .enabled⟩]
              settings := [], legal := by decide, assertions_nodup := by decide
              settings_nodup := by decide } ]
        identifiers_nodup := by decide
        ascending := by decide }
    sources := [] }

/-- A registry without flags. -/
def noFlags : Registry :=
  { definitions := []
    names_nodup := by decide
    targets_mem := by decide }

/-- The violation is the answer for every registry, also for one whose gate answers that the
flags are others. -/
theorem approval_bothShells : ∃ resolution, bothShells.resolve = .ok resolution ∧
    resolution.violations = [⟨"BASH", .excludes, "FISH", "default", "host"⟩] ∧
    ValidConfiguration.ofConfiguration resolution.configuration noFlags =
      .error (.registryMismatch "BASH") ∧
    resolution.Approval bothShells :=
  ⟨_, rfl, by decide, rfl, Stack.approval_of_resolve rfl⟩

end LayeredFlags
