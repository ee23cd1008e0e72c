import LayeredFlags.Distinct
import LayeredFlags.Flag.Error
/-!
# Registries

A registry is a list of flag definitions with distinct names whose constraints all speak of
another flag of the list. Both facts are part of the type.
-/

namespace LayeredFlags

/-- The known flags, in the order of their definition. -/
structure Registry where
  /-- The definitions, in order. -/
  definitions : List FlagDefinition
  /-- No name is defined twice. -/
  names_nodup : (definitions.map (·.name)).Nodup
  /-- Every constraint speaks of another flag of the registry. -/
  targets_mem : ∀ d ∈ definitions, ∀ c ∈ d.constraints,
    c.target ≠ d.name ∧ c.target ∈ definitions.map (·.name)
deriving DecidableEq

namespace Registry

/-- What is wrong with a constraint of the named flag, if the given flags are known. -/
def constraintError? (known : List String) (flag : String) (constraint : Constraint) :
    Option FlagError :=
  if constraint.target = flag then some (.selfReferentialConstraint flag)
  else if constraint.target ∉ known then some (.danglingConstraint flag constraint.target)
  else none

/-- The first thing that is wrong with the constraints of some definitions, if the given
flags are known. -/
def firstConstraintError? (known : List String) (definitions : List FlagDefinition) :
    Option FlagError :=
  definitions.findSome? fun d => d.constraints.findSome? (constraintError? known d.name)

/-- Nothing is wrong with a constraint exactly when it speaks of another known flag. -/
theorem constraintError?_eq_none_iff {known : List String} {flag : String}
    {constraint : Constraint} :
    constraintError? known flag constraint = none ↔
      constraint.target ≠ flag ∧ constraint.target ∈ known := by
  unfold constraintError?
  split
  · simp_all
  · split <;> simp_all

/-- Nothing is wrong with any constraint exactly when all speak of other known flags. -/
theorem firstConstraintError?_eq_none_iff {known : List String}
    {definitions : List FlagDefinition} :
    firstConstraintError? known definitions = none ↔
      ∀ d ∈ definitions, ∀ c ∈ d.constraints, c.target ≠ d.name ∧ c.target ∈ known := by
  simp only [firstConstraintError?, List.findSome?_eq_none_iff, constraintError?_eq_none_iff]

/-- Build a registry. A repeated name is found before any fault of a constraint, and of
several faults the first in the order of the definitions. -/
def ofDefinitions (definitions : List FlagDefinition) : Except FlagError Registry :=
  match hrepeat : firstRepeat? (definitions.map (·.name)) with
  | some name => .error (.duplicateFlagDefinition name)
  | none =>
    match hfault : firstConstraintError? (definitions.map (·.name)) definitions with
    | some error => .error error
    | none =>
      .ok
        { definitions
          names_nodup := firstRepeat?_eq_none_iff.1 hrepeat
          targets_mem := firstConstraintError?_eq_none_iff.1 hfault }

/-- The names of the flags, in order. -/
def names (registry : Registry) : List String :=
  registry.definitions.map (·.name)

/-- The definition of a flag, if the registry has it. -/
def find? (registry : Registry) (name : String) : Option FlagDefinition :=
  registry.definitions.find? (·.name == name)

/-- The registry defines the flag. -/
def contains (registry : Registry) (name : String) : Bool :=
  (registry.find? name).isSome

/-- The definition of a flag, which has to be known. -/
def lookup (registry : Registry) (name : String) : Except FlagError FlagDefinition :=
  match registry.find? name with
  | some definition => .ok definition
  | none => .error (.unknownFlag name none)

/-- Put names into an index, each with its place, counted from the given one on. The latest entry
of a name is the one that counts. A name that is in the index already is refused. -/
def indexFrom (index : List (String × Nat)) (place : Nat) :
    List String → Except String (List (String × Nat))
  | [] => .ok index
  | name :: rest =>
    match index.lookup name with
    | some _ => .error name
    | none => indexFrom ((name, place) :: index) (place + 1) rest

/-- The place of a flag among the definitions, by an index of their names. -/
def position? (registry : Registry) (name : String) : Option Nat :=
  match indexFrom [] 0 registry.names with
  | .ok index => index.lookup name
  | .error _ => none

/-- Every declared constraint with the name of the flag that declares it, in the order of
the definitions and of the declarations. -/
def declarations (registry : Registry) : List (String × Constraint) :=
  registry.definitions.flatMap fun d => d.constraints.map (d.name, ·)

end Registry

end LayeredFlags
