import LayeredFlags.Proofs.Lookup
import LayeredFlags.Validation
/-!
# Broken Constraints

A declared constraint is broken by a configuration that has both of its flags, in states
that the constraint rules out. This file says so apart from the lookup that finds them, and
compares the flags that two violations are about.

## Main definitions

* `Configuration.Breaks`: a violation is what a configuration makes of a declared constraint;
* `Violation.Excludes`: a violation reports that two flags exclude each other.

## Main results

* `Configuration.breach?_eq_some_iff`: the lookup finds exactly these violations;
* `Violation.pair_eq_iff`: the ordered pair of a violation stands for its two flags;
* `Configuration.violations_eq_nil_iff`: nothing is reported exactly when nothing is broken.
-/

namespace LayeredFlags

/-- What a configuration makes of a constraint that the flag declares: both flags are there,
the declaring one is enabled, and the other one is enabled although it is excluded or
disabled although it is required. -/
inductive Configuration.Breaks (configuration : Configuration) :
    String → Constraint → Violation → Prop where
  /-- Both flags are enabled. -/
  | excludes {own other : Entry} (hown : own ∈ configuration.entries)
      (hother : other ∈ configuration.entries) (enabled : own.state = .enabled)
      (otherEnabled : other.state = .enabled) :
      Breaks configuration own.flag (.excludes other.flag)
        { flag := own.flag
          kind := .excludes
          otherFlag := other.flag
          flagSource := own.source
          otherSource := other.source }
  /-- The required flag is disabled. -/
  | requires {own other : Entry} (hown : own ∈ configuration.entries)
      (hother : other ∈ configuration.entries) (enabled : own.state = .enabled)
      (otherDisabled : other.state = .disabled) :
      Breaks configuration own.flag (.requires other.flag)
        { flag := own.flag
          kind := .requires
          otherFlag := other.flag
          flagSource := own.source
          otherSource := other.source }

/-- The violation reports that the two flags exclude each other, in whichever order. -/
def Violation.Excludes (violation : Violation) (a b : String) : Prop :=
  violation.kind = .excludes ∧
    (violation.flag = a ∧ violation.otherFlag = b ∨
      violation.flag = b ∧ violation.otherFlag = a)

namespace Configuration

variable {configuration : Configuration} {flag : String} {constraint : Constraint}
  {violation : Violation}

/-! ## The lookup -/

/-- The lookup finds the violation of a constraint exactly when there is one. -/
theorem breach?_eq_some_iff :
    configuration.breach? flag constraint = some violation ↔
      configuration.Breaks flag constraint violation := by
  constructor
  · intro h
    unfold breach? at h
    split at h
    · -- both flags are found, and the kind of the constraint says which states break it
      next own other hown hother =>
      obtain ⟨hmem, rfl⟩ := find?_eq_some_iff.1 hown
      obtain ⟨hmemOther, htarget⟩ := find?_eq_some_iff.1 hother
      split at h
      · next hbroken =>
        cases h
        cases constraint with
        | excludes target =>
          obtain rfl : other.flag = target := htarget
          obtain ⟨hon, hotherOn⟩ : own.state = .enabled ∧ other.state = .enabled := by
            cases hs : own.state <;> cases ho : other.state <;>
              simp_all [Constraint.isBroken, FlagState.isEnabled]
          exact .excludes hmem hmemOther hon hotherOn
        | requires target =>
          obtain rfl : other.flag = target := htarget
          obtain ⟨hon, hotherOff⟩ : own.state = .enabled ∧ other.state = .disabled := by
            cases hs : own.state <;> cases ho : other.state <;>
              simp_all [Constraint.isBroken, FlagState.isEnabled]
          exact .requires hmem hmemOther hon hotherOff
      · cases h
    · cases h
  · intro h
    cases h with
    | @excludes own other hown hother hon hotherOn =>
      have hfind := find?_eq_some_iff.2 ⟨hown, rfl⟩
      have hfindOther := find?_eq_some_iff.2 ⟨hother, rfl⟩
      simp [breach?, Constraint.target, hfind, hfindOther, Constraint.isBroken, hon, hotherOn,
        FlagState.isEnabled, Constraint.kind]
    | @requires own other hown hother hon hotherOff =>
      have hfind := find?_eq_some_iff.2 ⟨hown, rfl⟩
      have hfindOther := find?_eq_some_iff.2 ⟨hother, rfl⟩
      simp [breach?, Constraint.target, hfind, hfindOther, Constraint.isBroken, hon, hotherOff,
        FlagState.isEnabled, Constraint.kind]

/-- The lookup finds nothing exactly when the constraint is not broken. -/
theorem breach?_eq_none_iff :
    configuration.breach? flag constraint = none ↔
      ∀ violation, ¬ configuration.Breaks flag constraint violation := by
  simp only [Option.eq_none_iff_forall_ne_some, Ne, breach?_eq_some_iff]

namespace Breaks

/-- A constraint is broken in one way only. -/
theorem unique {violation' : Violation} (h : configuration.Breaks flag constraint violation)
    (h' : configuration.Breaks flag constraint violation') : violation = violation' := by
  rw [← breach?_eq_some_iff] at h h'
  rw [h] at h'
  exact Option.some.inj h'

/-- A violation names the declaring flag. -/
theorem flag_eq (h : configuration.Breaks flag constraint violation) :
    violation.flag = flag := by
  cases h <;> rfl

/-- A violation names the other flag of the constraint. -/
theorem otherFlag_eq (h : configuration.Breaks flag constraint violation) :
    violation.otherFlag = constraint.target := by
  cases h <;> rfl

/-- A violation is of the kind of its constraint. -/
theorem kind_eq (h : configuration.Breaks flag constraint violation) :
    violation.kind = constraint.kind := by
  cases h <;> rfl

/-- A violation names the sources of the two entries. -/
theorem sources (h : configuration.Breaks flag constraint violation) :
    ∃ own other, configuration.find? violation.flag = some own ∧
      configuration.find? violation.otherFlag = some other ∧
      violation.flagSource = own.source ∧ violation.otherSource = other.source := by
  cases h with
  | excludes hown hother => exact ⟨_, _, find?_eq_some_iff.2 ⟨hown, rfl⟩,
      find?_eq_some_iff.2 ⟨hother, rfl⟩, rfl, rfl⟩
  | requires hown hother => exact ⟨_, _, find?_eq_some_iff.2 ⟨hown, rfl⟩,
      find?_eq_some_iff.2 ⟨hother, rfl⟩, rfl, rfl⟩

/-- Both flags of a violation are there. -/
theorem mem_flags (h : configuration.Breaks flag constraint violation) :
    flag ∈ configuration.flags ∧ constraint.target ∈ configuration.flags := by
  cases h with
  | excludes hown hother => exact ⟨List.mem_map_of_mem hown, List.mem_map_of_mem hother⟩
  | requires hown hother => exact ⟨List.mem_map_of_mem hown, List.mem_map_of_mem hother⟩

end Breaks

/-- An exclusion is broken exactly when both of its flags are enabled. -/
theorem exists_breaks_excludes_iff {a b : String} :
    (∃ violation, configuration.Breaks a (.excludes b) violation) ↔
      configuration.stateOf? a = some .enabled ∧
        configuration.stateOf? b = some .enabled := by
  simp only [stateOf?_eq_some_iff]
  constructor
  · rintro ⟨_, h⟩
    cases h with
    | excludes hown hother hon hotherOn => exact ⟨⟨_, hown, rfl, hon⟩, _, hother, rfl, hotherOn⟩
  · rintro ⟨⟨own, hown, rfl, hon⟩, other, hother, rfl, hotherOn⟩
    exact ⟨_, .excludes hown hother hon hotherOn⟩

end Configuration

/-! ## The two flags of a violation -/

namespace Violation

/-- A violation of an exclusion is about its own two flags. -/
theorem excludes_self {violation : Violation} (h : violation.kind = .excludes) :
    violation.Excludes violation.flag violation.otherFlag :=
  ⟨h, .inl ⟨rfl, rfl⟩⟩

/-- The order of the flags does not matter. -/
theorem Excludes.symm {violation : Violation} {a b : String} (h : violation.Excludes a b) :
    violation.Excludes b a :=
  ⟨h.1, h.2.symm⟩

/-- Violations about the same two flags are about those of either. -/
theorem Excludes.of_excludes {first second : Violation} {a b : String}
    (h : first.Excludes a b) (h' : second.Excludes a b) :
    first.Excludes second.flag second.otherFlag := by
  rcases h'.2 with ⟨rfl, rfl⟩ | ⟨rfl, rfl⟩
  · exact h
  · exact h.symm

/-- Two violations have the same ordered pair exactly when they are about the same flags. -/
theorem pair_eq_iff {first second : Violation} :
    first.pair = second.pair ↔
      first.flag = second.flag ∧ first.otherFlag = second.otherFlag ∨
        first.flag = second.otherFlag ∧ first.otherFlag = second.flag := by
  have hanti : ∀ a b : String, a ≤ b → b ≤ a → a = b := fun _ _ => String.le_antisymm
  -- either violation may name its flags in order or not; the order decides which case applies
  unfold pair
  split <;> split <;> simp only [Prod.mk.injEq]
  · next h h' =>
    refine ⟨.inl, ?_⟩
    rintro (heq | ⟨heq, heq'⟩)
    · exact heq
    · rw [heq, heq'] at h
      have := hanti _ _ h h'
      exact ⟨by rw [heq, this], by rw [heq', this]⟩
  · next h h' =>
    refine ⟨.inr, ?_⟩
    rintro (⟨heq, heq'⟩ | heq)
    · exact absurd (heq ▸ heq' ▸ h) h'
    · exact heq
  · next h h' =>
    refine ⟨fun heq => .inr heq.symm, ?_⟩
    rintro (⟨heq, heq'⟩ | heq)
    · rw [heq, heq'] at h
      exact absurd h' h
    · exact heq.symm
  · next h h' =>
    refine ⟨fun heq => .inl heq.symm, ?_⟩
    rintro (heq | ⟨heq, heq'⟩)
    · exact heq.symm
    · rw [heq, heq'] at h
      have hlt := String.lt_trans (String.not_le.1 h) (String.not_le.1 h')
      exact absurd hlt (String.lt_irrefl _)

end Violation

/-! ## No violation -/

/-- Nothing is reported exactly when no declared constraint is broken. -/
theorem Configuration.violationsAmong_nil_eq_nil_iff {configuration : Configuration}
    {declarations : List (String × Constraint)} :
    configuration.violationsAmong [] declarations = [] ↔
      ∀ declaration ∈ declarations,
        configuration.breach? declaration.1 declaration.2 = none := by
  induction declarations with
  | nil => simp [violationsAmong]
  | cons declaration rest ih =>
    obtain ⟨flag, constraint⟩ := declaration
    rw [violationsAmong, List.forall_mem_cons, ← ih]
    cases hbreach : configuration.breach? flag constraint with
    | none => simp
    | some violation =>
      obtain ⟨_, kind, _, _, _⟩ := violation
      cases kind <;> simp

/-- A registry has nothing to report exactly when none of its constraints is broken. -/
theorem Configuration.violations_eq_nil_iff {configuration : Configuration}
    {registry : Registry} :
    configuration.violations registry = [] ↔
      ∀ declaration ∈ registry.declarations,
        configuration.breach? declaration.1 declaration.2 = none :=
  violationsAmong_nil_eq_nil_iff

end LayeredFlags
