import LayeredFlags.Proofs.Validation.Gate
/-!
# The Verdict of the Gate

The gate compares the flags of a configuration with those of a registry one by one and then
asks for violations. This file says apart from that walk what it finds: the first place where
two lists of names differ, and the constraints that hold between the final states. A registry
declares constraints on its own flags only, so that none of them is passed over once the flags
are the same.

## Main definitions

* `DepartsAt`: the name that shows where a list departs from the expected one;
* `Configuration.Satisfies`: the final states meet all constraints of a registry;
* `Configuration.Verdict`: what the gate makes of a configuration.

## Main results

* `firstMismatch?_eq_some_iff`: the walk finds exactly the name that `DepartsAt` speaks of;
* `Configuration.violations_eq_nil_iff_satisfies`: nothing is reported exactly when every
  constraint holds;
* `Configuration.verdict_ofConfiguration`: the verdict on any configuration and any registry.
-/

namespace LayeredFlags

/-! ## Where two lists of names differ -/

/-- The names depart from the expected ones at the given name: either it stands behind a common
beginning where the expected names go on otherwise or end, or the names are a proper beginning
of the expected ones and it is the first that is missing. -/
inductive DepartsAt : List String → List String → String → Prop where
  /-- The expected names do not go on with the name. -/
  | differs (common : List String) {names expected : List String} {name : String}
      (other : expected.head? ≠ some name) :
      DepartsAt (common ++ name :: names) (common ++ expected) name
  /-- The names end where the name is expected. -/
  | missing (names : List String) {expected : List String} {name : String} :
      DepartsAt names (names ++ name :: expected) name

/-- A common first name may stand in front. -/
theorem DepartsAt.cons {names expected : List String} {name : String}
    (h : DepartsAt names expected name) (first : String) :
    DepartsAt (first :: names) (first :: expected) name := by
  cases h with
  | differs common other => exact .differs (first :: common) other
  | missing => exact .missing (first :: names)

theorem firstMismatch?_append_append (common names expected : List String) :
    firstMismatch? (common ++ names) (common ++ expected) = firstMismatch? names expected := by
  induction common with
  | nil => rfl
  | cons first common ih => rw [List.cons_append, List.cons_append, firstMismatch?, if_pos rfl, ih]

/-- The walk along both lists finds the name at which they depart. -/
theorem firstMismatch?_eq_some_iff {names expected : List String} {name : String} :
    firstMismatch? names expected = some name ↔ DepartsAt names expected name := by
  constructor
  · intro h
    -- the walk shortens both lists by a common name, until one ends or the names differ
    fun_induction firstMismatch? names expected with
    | case1 => cases h
    | case2 first rest =>
      obtain rfl := Option.some.inj h
      exact .missing []
    | case3 first rest =>
      obtain rfl := Option.some.inj h
      exact .differs [] (by simp)
    | case4 names first rest ih => exact (ih h).cons first
    | case5 first names other rest hne =>
      obtain rfl := Option.some.inj h
      exact .differs [] (by simpa using Ne.symm hne)
  · intro h
    cases h with
    | @differs common names expected _ other =>
      rw [firstMismatch?_append_append]
      cases expected with
      | nil => rfl
      | cons first rest =>
        have hne : name ≠ first := fun heq => other (by rw [List.head?_cons, heq])
        rw [firstMismatch?, if_neg hne]
    | @missing _ expected _ =>
      have happend := firstMismatch?_append_append names [] (name :: expected)
      rw [List.append_nil] at happend
      rw [happend, firstMismatch?]

/-- Two lists of names depart at one name only. -/
theorem DepartsAt.unique {names expected : List String} {name name' : String}
    (h : DepartsAt names expected name) (h' : DepartsAt names expected name') :
    name = name' := by
  rw [← firstMismatch?_eq_some_iff] at h h'
  rw [h] at h'
  exact Option.some.inj h'

/-- Different lists of names depart somewhere. -/
theorem exists_departsAt_of_ne {names expected : List String} (h : names ≠ expected) :
    ∃ name, DepartsAt names expected name := by
  cases hmismatch : firstMismatch? names expected with
  | none => exact absurd (firstMismatch?_eq_none_iff.1 hmismatch) h
  | some name => exact ⟨name, firstMismatch?_eq_some_iff.1 hmismatch⟩

namespace Configuration

/-! ## Constraints that hold -/

/-- What a constraint of an enabled flag asks of the flag at its other end. -/
def Meets (configuration : Configuration) : Constraint → Prop
  | .excludes target => configuration.stateOf? target = some .disabled
  | .requires target => configuration.stateOf? target = some .enabled

/-- The final states meet every constraint that an enabled flag of the registry declares. -/
def Satisfies (configuration : Configuration) (registry : Registry) : Prop :=
  ∀ definition ∈ registry.definitions,
    configuration.stateOf? definition.name = some .enabled →
      ∀ constraint ∈ definition.constraints, configuration.Meets constraint

variable {configuration : Configuration} {registry : Registry}

/-- A flag that a configuration has is in some state. -/
theorem exists_stateOf?_eq_some {flag : String} (h : flag ∈ configuration.flags) :
    ∃ state, configuration.stateOf? flag = some state := by
  obtain ⟨entry, hmem, hflag⟩ := List.mem_map.1 h
  exact ⟨entry.state, stateOf?_eq_some_iff.2 ⟨entry, hmem, hflag, rfl⟩⟩

/-- A constraint between two flags that are there is unbroken exactly when the declaring flag is
disabled or the constraint is met. -/
theorem breach?_eq_none_iff_meets {flag : String} {constraint : Constraint}
    (hflag : flag ∈ configuration.flags) (htarget : constraint.target ∈ configuration.flags) :
    configuration.breach? flag constraint = none ↔
      (configuration.stateOf? flag = some .enabled → configuration.Meets constraint) := by
  obtain ⟨own, hown⟩ := exists_stateOf?_eq_some hflag
  obtain ⟨other, hother⟩ := exists_stateOf?_eq_some htarget
  rw [← Option.not_isSome_iff_eq_none, breach?_isSome_iff]
  cases constraint with
  | excludes target =>
    simp only [Constraint.target] at hother
    cases own <;> cases other <;>
      simp [hown, hother, Meets, Constraint.target, Constraint.isBroken, FlagState.isEnabled]
  | requires target =>
    simp only [Constraint.target] at hother
    cases own <;> cases other <;>
      simp [hown, hother, Meets, Constraint.target, Constraint.isBroken, FlagState.isEnabled]

/-- A configuration of the flags of a registry breaks none of its constraints exactly when its
states meet them all. -/
theorem violations_eq_nil_iff_satisfies (h : configuration.flags = registry.names) :
    configuration.violations registry = [] ↔ configuration.Satisfies registry := by
  -- the registry names both ends of every constraint, so none is missing in the configuration
  have hbreach : ∀ definition ∈ registry.definitions,
      ∀ constraint ∈ definition.constraints,
        (configuration.breach? definition.name constraint = none ↔
          (configuration.stateOf? definition.name = some .enabled →
            configuration.Meets constraint)) := by
    intro definition hdefinition constraint hconstraint
    refine breach?_eq_none_iff_meets ?_ ?_
    · rw [h]
      exact List.mem_map_of_mem hdefinition
    · rw [h]
      exact (registry.targets_mem definition hdefinition constraint hconstraint).2
  rw [violations_eq_nil_iff]
  constructor
  · intro hnone definition hdefinition henabled constraint hconstraint
    have hdeclared : (definition.name, constraint) ∈ registry.declarations :=
      List.mem_flatMap.2 ⟨definition, hdefinition, List.mem_map_of_mem hconstraint⟩
    exact (hbreach definition hdefinition constraint hconstraint).1 (hnone _ hdeclared) henabled
  · intro hsatisfies declaration hdeclared
    obtain ⟨definition, hdefinition, hpair⟩ := List.mem_flatMap.1 hdeclared
    obtain ⟨constraint, hconstraint, rfl⟩ := List.mem_map.1 hpair
    exact (hbreach definition hdefinition constraint hconstraint).2 fun henabled =>
      hsatisfies definition hdefinition henabled constraint hconstraint

/-! ## The verdict -/

/-- What the gate of a registry makes of a configuration. -/
structure Verdict (configuration : Configuration) (registry : Registry)
    (outcome : Except FlagError ValidConfiguration) : Prop where
  /-- The configuration passes exactly when it has the flags of the registry in order and meets
  all constraints. -/
  exists_ok_iff : (∃ valid, outcome = .ok valid) ↔
    configuration.flags = registry.names ∧ configuration.Satisfies registry
  /-- What passes is the configuration as it is. -/
  unchanged : ∀ valid, outcome = .ok valid → valid.configuration = configuration
  /-- Other flags are refused for the one name at which they depart, whatever else is wrong. -/
  mismatch : configuration.flags ≠ registry.names →
    ∃ flag, (∀ name, DepartsAt configuration.flags registry.names name ↔ name = flag) ∧
      outcome = .error (.registryMismatch flag)
  /-- The flags of the registry are refused for all violations, and only if there are some. -/
  violation : configuration.flags = registry.names → ∀ error, outcome = .error error →
    error = .constraintViolation (configuration.violations registry) ∧
      configuration.violations registry ≠ []

/-- The objection to other flags than those of the registry. -/
theorem objection?_of_departsAt {flag : String}
    (h : DepartsAt configuration.flags registry.names flag) :
    configuration.objection? registry = some (.registryMismatch flag) := by
  rw [objection?, firstMismatch?_eq_some_iff.2 h]

/-- The objection to a configuration of the flags of the registry. -/
theorem objection?_of_flags_eq (h : configuration.flags = registry.names) {error : FlagError}
    (hobjection : configuration.objection? registry = some error) :
    error = .constraintViolation (configuration.violations registry) ∧
      configuration.violations registry ≠ [] := by
  rw [objection?, firstMismatch?_eq_none_iff.2 h] at hobjection
  cases hviolations : configuration.violations registry with
  | nil =>
    rw [hviolations] at hobjection
    cases hobjection
  | cons violation others =>
    rw [hviolations] at hobjection
    exact ⟨(Option.some.inj hobjection).symm, List.cons_ne_nil violation others⟩

end Configuration

/-- The gate refuses a configuration with exactly what is objected to it. -/
theorem ValidConfiguration.ofConfiguration_eq_error_iff {configuration : Configuration}
    {registry : Registry} {error : FlagError} :
    ofConfiguration configuration registry = .error error ↔
      configuration.objection? registry = some error := by
  unfold ofConfiguration
  split
  · next error' h => rw [h, Except.error.injEq, Option.some.injEq]
  · next h => simp [h]

/-- The gate of any registry gives its verdict on any configuration, in particular on one that
was resolved from another registry. -/
theorem Configuration.verdict_ofConfiguration (configuration : Configuration)
    (registry : Registry) :
    configuration.Verdict registry
      (ValidConfiguration.ofConfiguration configuration registry) where
  exists_ok_iff := by
    have hpassed : (∃ valid, ValidConfiguration.ofConfiguration configuration registry =
        .ok valid) ↔ configuration.objection? registry = none := by
      constructor
      · rintro ⟨valid, hvalid⟩
        exact (ValidConfiguration.ofConfiguration_eq_ok_iff.1 hvalid).1
      · intro hnone
        exact ⟨⟨configuration, registry, hnone⟩,
          ValidConfiguration.ofConfiguration_eq_ok_iff.2 ⟨hnone, rfl⟩⟩
    rw [hpassed, objection?_eq_none_iff]
    exact and_congr_right violations_eq_nil_iff_satisfies
  unchanged := fun valid hvalid => (ValidConfiguration.ofConfiguration_eq_ok_iff.1 hvalid).2
  mismatch := fun hne => by
    obtain ⟨flag, hdeparts⟩ := exists_departsAt_of_ne hne
    have hunique : ∀ name, DepartsAt configuration.flags registry.names name ↔ name = flag :=
      fun name => ⟨fun h => h.unique hdeparts, fun h => h ▸ hdeparts⟩
    exact ⟨flag, hunique,
      ValidConfiguration.ofConfiguration_eq_error_iff.2 (objection?_of_departsAt hdeparts)⟩
  violation := fun heq error herror =>
    objection?_of_flags_eq heq (ValidConfiguration.ofConfiguration_eq_error_iff.1 herror)

end LayeredFlags
