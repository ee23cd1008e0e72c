import LayeredFlags.Proofs.Construction
import LayeredFlags.Proofs.FirstError
import LayeredFlags.Proofs.Lookup
import LayeredFlags.Proofs.Repeats
/-!
# From Catalogs to Registries

A catalog is checked four times before it is a registry: that it has flags, that their names are
identifiers, that no name is repeated, and that every constraint speaks of another flag. Each check
goes through the whole catalog before the next one starts, so that a constraint may speak of a flag
that is defined further down, and the error is that of the first check that fails.

## Main definitions

* `CatalogFlag.Describes`: the definition that a flag of a catalog stands for;
* `Catalog.WellFormed`: what a catalog has to be;
* `Catalog.Fails`: how each check of a catalog fails;
* `Catalog.Admission`: which catalogs are a registry, which one, and what is said of the others.

## Main results

* `Registry.ofDefinitions_eq_error_iff`: why definitions are refused;
* `Catalog.fails_iff`: each check fails with the first fault of its kind;
* `Catalog.admission_toRegistry`: every catalog is a registry, or is refused for its first fault.
-/

namespace LayeredFlags

/-! ## Specification -/

/-- The definition says what the flag of a catalog says. -/
structure CatalogFlag.Describes (flag : CatalogFlag) (definition : FlagDefinition) : Prop where
  /-- The name is kept. -/
  name_eq : definition.name = flag.name
  /-- The default is kept. -/
  default_eq : definition.defaultState = flag.default
  /-- The description is kept. -/
  description_eq : definition.description = flag.description
  /-- The exclusions are declared in their order, and after them the requirements. -/
  constraints_eq : definition.constraints =
    flag.excludes.map .excludes ++ flag.requires.map .requires

/-- The name of the flag is refused. -/
inductive CatalogFlag.Misnamed : CatalogFlag → CatalogFault → Prop where
  /-- The name is no identifier. -/
  | invalidName {flag : CatalogFlag} (invalid : ¬ FlagName.Matches flag.name) :
      Misnamed flag (.invalidName flag.name)

/-- The constraint that the flag of that name declares is refused, if those are the known names. -/
inductive Misplaced (known : List String) : String × Constraint → FlagError → Prop where
  /-- The flag speaks of itself. -/
  | selfReferential {flag : String} {constraint : Constraint} (self : constraint.target = flag) :
      Misplaced known (flag, constraint) (.selfReferentialConstraint flag)
  /-- The flag speaks of one that is not known. -/
  | dangling {flag : String} {constraint : Constraint} (other : constraint.target ≠ flag)
      (unknown : constraint.target ∉ known) :
      Misplaced known (flag, constraint) (.danglingConstraint flag constraint.target)

/-- The checks of a catalog. -/
inductive CatalogCheck where
  /-- There is a flag. -/
  | flags
  /-- The names are identifiers. -/
  | names
  /-- No name is repeated. -/
  | repeats
  /-- The constraints speak of other flags. -/
  | constraints

/-- The checks in the order in which they are made. -/
def CatalogCheck.all : List CatalogCheck :=
  [.flags, .names, .repeats, .constraints]

namespace Catalog

/-- The names of the flags, in order. -/
def names (catalog : Catalog) : List String :=
  catalog.flags.map (·.name)

/-- Every declared constraint with the name of the flag that declares it, in the order of the flags
and of the declarations. -/
def declarations (catalog : Catalog) : List (String × Constraint) :=
  catalog.flags.flatMap fun flag =>
    (flag.excludes.map Constraint.excludes ++ flag.requires.map Constraint.requires).map
      (flag.name, ·)

/-- What a catalog has to be for a registry to be made of it. -/
structure WellFormed (catalog : Catalog) : Prop where
  /-- There is a flag. -/
  flags_ne_nil : catalog.flags ≠ []
  /-- The names are identifiers. -/
  names_match : ∀ flag ∈ catalog.flags, FlagName.Matches flag.name
  /-- No two flags have one name. -/
  names_nodup : catalog.names.Nodup
  /-- Exclusions and requirements are names of other flags, which may be defined further down. -/
  others : ∀ flag ∈ catalog.flags, ∀ target ∈ flag.excludes ++ flag.requires,
    ∃ other ∈ catalog.flags, other ≠ flag ∧ other.name = target

/-- How a check of the catalog fails. -/
inductive Fails (catalog : Catalog) : CatalogCheck → StackError → Prop where
  /-- There is no flag. -/
  | flags (empty : catalog.flags = []) : Fails catalog .flags (.catalog .noFlags)
  /-- The fault is that of the first flag whose name is no identifier. -/
  | names {fault : CatalogFault}
      (first : FirstError CatalogFlag.Misnamed catalog.flags fault) :
      Fails catalog .names (.catalog fault)
  /-- The name is that of the earliest flag that repeats an earlier one. -/
  | repeats {name : String} (repeated : EarliestRepeat catalog.names name) :
      Fails catalog .repeats (.flag (.duplicateFlagDefinition name))
  /-- The error is that of the first constraint on the flag itself or on an unknown flag. -/
  | constraints {error : FlagError}
      (first : FirstError (Misplaced catalog.names) catalog.declarations error) :
      Fails catalog .constraints (.flag error)

/-- What comes of making a registry of the catalog. -/
structure Admission (catalog : Catalog) : Prop where
  /-- There is a registry exactly if the catalog is well formed. -/
  exists_iff : (∃ registry, catalog.toRegistry = .ok registry) ↔ catalog.WellFormed
  /-- The registry defines the flags of the catalog, in their order. -/
  described : ∀ registry, catalog.toRegistry = .ok registry →
    List.Forall₂ CatalogFlag.Describes catalog.flags registry.definitions
  /-- It finds each of them by its name at its own place. -/
  found : ∀ registry, catalog.toRegistry = .ok registry → ∀ (place : Nat) definition,
    registry.definitions[place]? = some definition →
      registry.Finds definition.name place definition
  /-- It finds no other name. -/
  lacking : ∀ registry, catalog.toRegistry = .ok registry → ∀ name, name ∉ catalog.names →
    registry.Lacks name
  /-- Otherwise the error is that of the first check that fails. -/
  error_iff : ∀ error, catalog.toRegistry = .error error ↔
    FirstError catalog.Fails CatalogCheck.all error

end Catalog

/-! ## Definitions -/

namespace Registry

variable {known : List String} {definitions : List FlagDefinition} {error : FlagError}

/-- A constraint has the error for which it is refused. -/
theorem constraintError?_eq_some_iff {flag : String} {constraint : Constraint} :
    constraintError? known flag constraint = some error ↔
      Misplaced known (flag, constraint) error := by
  unfold constraintError?
  constructor
  · intro h
    split at h
    · next self =>
      cases h
      exact .selfReferential self
    · next other =>
      split at h
      · next unknown =>
        cases h
        exact .dangling other unknown
      · cases h
  · intro h
    cases h with
    | selfReferential self => rw [if_pos self]
    | dangling other unknown => rw [if_neg other, if_pos unknown]

/-- The first error of the constraints is that of the first constraint that is refused. -/
theorem firstConstraintError?_eq_some_iff :
    firstConstraintError? known definitions = some error ↔
      FirstError (Misplaced known) (definitions.flatMap fun d => d.constraints.map (d.name, ·))
        error := by
  rw [firstConstraintError?, findSome?_eq_some_iff_firstError, firstError_flatMap_iff]
  refine firstError_congr fun d _ error => ?_
  rw [findSome?_eq_some_iff_firstError, firstError_map_iff]
  exact firstError_congr fun constraint _ error => constraintError?_eq_some_iff

/-- Definitions are refused for a repeated name, and otherwise for their constraints. -/
theorem ofDefinitions_eq_error_iff :
    ofDefinitions definitions = .error error ↔
      ((firstRepeat? (definitions.map (·.name))).map .duplicateFlagDefinition).or
        (firstConstraintError? (definitions.map (·.name)) definitions) = some error := by
  unfold ofDefinitions
  split
  · next hrepeat => simp [hrepeat]
  · next hrepeat =>
    split
    · next hfault => simp [hrepeat, hfault]
    · next hfault => simp [hrepeat, hfault]

end Registry

/-! ## Checks -/

/-- The name of a flag is refused exactly if it is not valid. -/
theorem CatalogFlag.misnamed_iff {flag : CatalogFlag} {fault : CatalogFault} :
    flag.Misnamed fault ↔
      (!FlagName.isValid flag.name) = true ∧ .invalidName flag.name = fault := by
  rw [Bool.not_eq_true', ← Bool.not_eq_true, FlagName.isValid_iff_matches]
  constructor
  · intro h
    cases h with
    | invalidName invalid => exact ⟨invalid, rfl⟩
  · rintro ⟨invalid, rfl⟩
    exact .invalidName invalid

namespace Catalog

variable {catalog : Catalog} {check : CatalogCheck} {error : StackError}

/-- The error with which a check of the catalog fails. -/
def fault? (catalog : Catalog) : CatalogCheck → Option StackError
  | .flags => if catalog.flags.isEmpty then some (.catalog .noFlags) else none
  | .names =>
    ((catalog.flags.find? (!FlagName.isValid ·.name)).map (.invalidName ·.name)).map .catalog
  | .repeats => ((firstRepeat? catalog.names).map .duplicateFlagDefinition).map .flag
  | .constraints =>
    (Registry.firstConstraintError? catalog.names
      (catalog.flags.map CatalogFlag.toDefinition)).map .flag

/-- A catalog is refused with the error of the first check that has one. -/
theorem toRegistry_eq_error_iff :
    catalog.toRegistry = .error error ↔
      CatalogCheck.all.findSome? catalog.fault? = some error := by
  have hnames : (catalog.flags.map CatalogFlag.toDefinition).map (·.name) = catalog.names :=
    List.map_map
  unfold toRegistry
  split
  · next hempty => simp [CatalogCheck.all, fault?, hempty]
  · next hempty =>
    split
    · next hinvalid => simp [CatalogCheck.all, fault?, hempty, hinvalid]
    · next hvalid =>
      simp only [liftFlag, mapError_eq_error_iff, Registry.ofDefinitions_eq_error_iff, hnames,
        CatalogCheck.all, List.findSome?_cons, fault?, hempty, hvalid]
      cases firstRepeat? catalog.names with
      | some name => simp
      | none =>
        cases Registry.firstConstraintError? catalog.names
            (catalog.flags.map CatalogFlag.toDefinition) with
        | some fault => simp
        | none => simp

/-- A check fails with the first fault of its kind. -/
theorem fails_iff : catalog.Fails check error ↔ catalog.fault? check = some error := by
  cases check with
  | flags =>
    rw [fault?, Option.ite_none_right_eq_some, Option.some.injEq, List.isEmpty_iff]
    constructor
    · intro h
      cases h with
      | flags empty => exact ⟨empty, rfl⟩
    · rintro ⟨empty, rfl⟩
      exact .flags empty
  | names =>
    have hfirst {fault : CatalogFault} :
        (catalog.flags.find? (!FlagName.isValid ·.name)).map (.invalidName ·.name) = some fault ↔
          FirstError CatalogFlag.Misnamed catalog.flags fault :=
      map_find?_eq_some_iff_firstError.trans
        (firstError_congr fun _ _ _ => CatalogFlag.misnamed_iff.symm)
    rw [fault?, Option.map_eq_some_iff]
    simp only [hfirst]
    constructor
    · intro h
      cases h with
      | names first => exact ⟨_, first, rfl⟩
    · rintro ⟨fault, first, rfl⟩
      exact .names first
  | repeats =>
    simp only [fault?, Option.map_map, Option.map_eq_some_iff, firstRepeat?_eq_some_iff]
    constructor
    · intro h
      cases h with
      | repeats repeated => exact ⟨_, repeated, rfl⟩
    · rintro ⟨name, repeated, rfl⟩
      exact .repeats repeated
  | constraints =>
    have hdeclared : ((catalog.flags.map CatalogFlag.toDefinition).flatMap fun d =>
        d.constraints.map (d.name, ·)) = catalog.declarations :=
      List.flatMap_map _ _ _
    simp only [fault?, Option.map_eq_some_iff, Registry.firstConstraintError?_eq_some_iff,
      hdeclared]
    constructor
    · intro h
      cases h with
      | constraints first => exact ⟨_, first, rfl⟩
    · rintro ⟨error, first, rfl⟩
      exact .constraints first

/-- A catalog passes a check exactly if the check finds no fault. -/
theorem passes_iff : (∀ error, ¬ catalog.Fails check error) ↔ catalog.fault? check = none := by
  simp only [fails_iff, Option.eq_none_iff_forall_ne_some, ne_eq]

/-- A name is one of the catalog, but not that of the flag, exactly if another flag has it. -/
theorem mem_names_iff_of_nodup (hnodup : catalog.names.Nodup) {flag : CatalogFlag}
    (hflag : flag ∈ catalog.flags) {name : String} :
    name ≠ flag.name ∧ name ∈ catalog.names ↔
      ∃ other ∈ catalog.flags, other ≠ flag ∧ other.name = name := by
  constructor
  · rintro ⟨hne, hmem⟩
    obtain ⟨other, hother, rfl⟩ := List.mem_map.1 hmem
    exact ⟨other, hother, fun heq => hne (congrArg _ heq), rfl⟩
  · rintro ⟨other, hother, hne, rfl⟩
    refine ⟨fun heq => hne ?_, List.mem_map_of_mem hother⟩
    exact List.inj_on_of_nodup_map hnodup hother hflag heq

/-- Where no name is repeated, the constraints of a catalog are in order exactly if each is on
another flag. -/
theorem firstConstraintError?_eq_none_iff (hnodup : catalog.names.Nodup) :
    Registry.firstConstraintError? catalog.names
        (catalog.flags.map CatalogFlag.toDefinition) = none ↔
      ∀ flag ∈ catalog.flags, ∀ target ∈ flag.excludes ++ flag.requires,
        ∃ other ∈ catalog.flags, other ≠ flag ∧ other.name = target := by
  rw [Registry.firstConstraintError?_eq_none_iff, List.forall_mem_map]
  refine forall₂_congr fun flag hflag => ?_
  have htargets : flag.toDefinition.constraints.map (·.target) =
      flag.excludes ++ flag.requires := by
    simp [CatalogFlag.toDefinition, Constraint.target, Function.comp_def]
  rw [← htargets, List.forall_mem_map]
  exact forall₂_congr fun constraint _ => mem_names_iff_of_nodup hnodup hflag

/-- A catalog passes all checks exactly if it is well formed. -/
theorem wellFormed_iff :
    catalog.WellFormed ↔ ∀ check ∈ CatalogCheck.all, ∀ error, ¬ catalog.Fails check error := by
  simp only [CatalogCheck.all, List.forall_mem_cons, passes_iff, fault?, Option.map_eq_none_iff,
    List.find?_eq_none, firstRepeat?_eq_none_iff]
  constructor
  · rintro ⟨hflags, hnames, hnodup, hothers⟩
    refine ⟨by simpa using hflags, ?_, hnodup, ?_, List.forall_mem_nil _⟩
    · simpa [FlagName.isValid_iff_matches] using hnames
    · exact (firstConstraintError?_eq_none_iff hnodup).2 hothers
  · rintro ⟨hflags, hnames, hnodup, hothers, -⟩
    refine ⟨by simpa using hflags, ?_, hnodup, (firstConstraintError?_eq_none_iff hnodup).1 hothers⟩
    simpa [FlagName.isValid_iff_matches] using hnames

/-- A catalog is a registry exactly if no check finds a fault. -/
theorem exists_toRegistry_iff :
    (∃ registry, catalog.toRegistry = .ok registry) ↔
      CatalogCheck.all.findSome? catalog.fault? = none := by
  simp only [Option.eq_none_iff_forall_ne_some, ne_eq, ← toRegistry_eq_error_iff]
  cases catalog.toRegistry with
  | error error => simp
  | ok registry => simp

/-- A catalog is a registry, with its flags in their order, or is refused for its first fault. -/
theorem admission_toRegistry (catalog : Catalog) : catalog.Admission where
  exists_iff := by
    rw [exists_toRegistry_iff, wellFormed_iff, List.findSome?_eq_none_iff]
    exact forall₂_congr fun _ _ => passes_iff.symm
  described registry h := by
    rw [definitions_of_toRegistry h, List.forall₂_map_right_iff, List.forall₂_same]
    exact fun flag _ => ⟨rfl, rfl, rfl, rfl⟩
  found registry _ place definition := Registry.finds_of_getElem?
  lacking registry h name hname := by
    refine Registry.lacks_of_not_mem fun hmem => hname ?_
    rwa [Registry.names, definitions_of_toRegistry h, List.map_map] at hmem
  error_iff error := by
    rw [toRegistry_eq_error_iff, findSome?_eq_some_iff_firstError]
    exact firstError_congr fun _ _ _ => fails_iff.symm

end Catalog

end LayeredFlags
