import LayeredFlags.Validation
/-!
# The Gate before Output

Only a configuration that has exactly the flags of a registry, in its order, and breaks none
of its constraints may be written out. `ValidConfiguration.ofConfiguration` is the only way
to such a configuration.
-/

namespace LayeredFlags

/-- The first name that shows that two lists of names differ: the first that is not matched
by the expected one at its place, or the first expected one that is missing. -/
def firstMismatch? : List String → List String → Option String
  | [], [] => none
  | [], missing :: _ => some missing
  | name :: _, [] => some name
  | name :: names, expected :: rest =>
    if name = expected then firstMismatch? names rest else some name

/-- Two lists of names have no mismatch exactly when they are equal. -/
theorem firstMismatch?_eq_none_iff {names expected : List String} :
    firstMismatch? names expected = none ↔ names = expected := by
  induction names generalizing expected with
  | nil => cases expected <;> simp [firstMismatch?]
  | cons name names ih =>
    cases expected with
    | nil => simp [firstMismatch?]
    | cons first rest =>
      simp only [firstMismatch?, List.cons.injEq]
      split
      · simp [*]
      · simp [*]

/-- What keeps a configuration from being written out for a registry, if anything does. -/
def Configuration.objection? (configuration : Configuration) (registry : Registry) :
    Option FlagError :=
  match firstMismatch? configuration.flags registry.names with
  | some flag => some (.registryMismatch flag)
  | none =>
    match configuration.violations registry with
    | [] => none
    | violations => some (.constraintViolation violations)

/-- A configuration that has passed the gate of some registry. -/
structure ValidConfiguration where
  /-- The configuration. -/
  configuration : Configuration
  /-- Some registry has no objection to it. -/
  passed : ∃ registry, configuration.objection? registry = none

/-- Let a configuration pass the gate of a registry. -/
def ValidConfiguration.ofConfiguration (configuration : Configuration)
    (registry : Registry) : Except FlagError ValidConfiguration :=
  match h : configuration.objection? registry with
  | some error => .error error
  | none => .ok { configuration, passed := ⟨registry, h⟩ }

end LayeredFlags
