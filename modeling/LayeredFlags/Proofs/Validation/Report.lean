import LayeredFlags.Proofs.Validation.Breach
/-!
# The Report of Violations

The declared constraints of a registry are read once, in order. This file states as a relation
what is to be kept of them, proves that the relation determines the report, and derives from it
what a reader of the report relies on.

## Main definitions

* `Configuration.Scan`: the violations kept from some declarations, after those kept before;
* `Configuration.DeclaredFirst`: the first declaration about two flags that exclude each other;
* `Configuration.Reports`: what the report says of the constraints of a registry.

## Main results

* `Configuration.scan_violationsAmong`, `Configuration.scan_violations`: the pass over the
  declarations is such a scan;
* `Configuration.Scan.unique`: there is only one;
* `Configuration.Scan.exists_excludes_iff`, `Configuration.Scan.declaredFirst`:
  what the scan reports of the flags that exclude each other;
* `Configuration.reports_violations`: the report of any configuration against any registry.
-/

namespace LayeredFlags

namespace Configuration

/-- Read the declarations in order, with the violations kept so far, until the kept violations
are the final ones. A broken requirement is always kept, and a broken exclusion unless an
exclusion of the same two flags is kept already. -/
inductive Scan (configuration : Configuration) :
    List Violation → List (String × Constraint) → List Violation → Prop where
  /-- All declarations are read. -/
  | done {kept : List Violation} : Scan configuration kept [] kept
  /-- The constraint is not broken. -/
  | unbroken {kept final : List Violation} {flag : String} {constraint : Constraint}
      {rest : List (String × Constraint)}
      (holds : ∀ violation, ¬ configuration.Breaks flag constraint violation)
      (tail : Scan configuration kept rest final) :
      Scan configuration kept ((flag, constraint) :: rest) final
  /-- A requirement is broken. -/
  | requirement {kept final : List Violation} {flag target : String} {violation : Violation}
      {rest : List (String × Constraint)}
      (broken : configuration.Breaks flag (.requires target) violation)
      (tail : Scan configuration (kept ++ [violation]) rest final) :
      Scan configuration kept ((flag, .requires target) :: rest) final
  /-- An exclusion is broken, and none of the two flags is kept. -/
  | exclusion {kept final : List Violation} {flag target : String} {violation : Violation}
      {rest : List (String × Constraint)}
      (broken : configuration.Breaks flag (.excludes target) violation)
      (new : ∀ earlier ∈ kept, ¬ earlier.Excludes flag target)
      (tail : Scan configuration (kept ++ [violation]) rest final) :
      Scan configuration kept ((flag, .excludes target) :: rest) final
  /-- An exclusion is broken, and one of the two flags is kept already. -/
  | repeated {kept final : List Violation} {flag target : String} {violation : Violation}
      {rest : List (String × Constraint)}
      (broken : configuration.Breaks flag (.excludes target) violation)
      (old : ∃ earlier ∈ kept, earlier.Excludes flag target)
      (tail : Scan configuration kept rest final) :
      Scan configuration kept ((flag, .excludes target) :: rest) final

/-- Of the declarations that two flags exclude each other, the first one is made by the first
flag about the second one. -/
def DeclaredFirst (declarations : List (String × Constraint)) (a b : String) : Prop :=
  ∃ before after, declarations = before ++ (a, .excludes b) :: after ∧
    (a, .excludes b) ∉ before ∧ (b, .excludes a) ∉ before

/-- What a report of violations says of the constraints of a registry. -/
structure Reports (configuration : Configuration) (registry : Registry)
    (violations : List Violation) : Prop where
  /-- The report is the one list that a scan of all declarations keeps. -/
  scan_iff : ∀ final,
    configuration.Scan [] registry.declarations final ↔ final = violations
  /-- Declarations with an end that the configuration does not have make no difference. -/
  scan_present : configuration.Scan []
    (registry.declarations.filter fun declaration =>
      declaration.1 ∈ configuration.flags ∧ declaration.2.target ∈ configuration.flags)
    violations
  /-- Two flags are reported as excluding each other exactly when both are enabled and one of
  them declares it. -/
  exists_excludes_iff : ∀ a b, (∃ violation ∈ violations, violation.Excludes a b) ↔
    configuration.stateOf? a = some .enabled ∧ configuration.stateOf? b = some .enabled ∧
      ((a, .excludes b) ∈ registry.declarations ∨ (b, .excludes a) ∈ registry.declarations)
  /-- Two flags are reported once at most. -/
  excludes_once : violations.Pairwise fun first second =>
    ∀ a b, first.Excludes a b → ¬ second.Excludes a b
  /-- Two flags are reported for the first of their declarations. -/
  first_declaration : ∀ violation ∈ violations, violation.kind = .excludes →
    DeclaredFirst registry.declarations violation.flag violation.otherFlag
  /-- Every violation names the sources of its two entries. -/
  sources : ∀ violation ∈ violations, ∃ own other,
    configuration.find? violation.flag = some own ∧
    configuration.find? violation.otherFlag = some other ∧
    violation.flagSource = own.source ∧ violation.otherSource = other.source

variable {configuration : Configuration}

/-! ## The pass is a scan -/

/-- The pass over the declarations is a scan, as long as the pairs that it does not report
again are those of the kept exclusions. -/
theorem scan_violationsAmong {kept : List Violation} {reported : List (String × String)}
    {declarations : List (String × Constraint)}
    (h : ∀ pair, pair ∈ reported ↔
      ∃ earlier ∈ kept, earlier.kind = .excludes ∧ earlier.pair = pair) :
    configuration.Scan kept declarations
      (kept ++ configuration.violationsAmong reported declarations) := by
  -- induction on the declarations that are left, for all that was kept before them
  induction declarations generalizing kept reported with
  | nil => simpa [violationsAmong] using Scan.done
  | cons declaration rest ih =>
    obtain ⟨flag, constraint⟩ := declaration
    rw [violationsAmong]
    cases hbreach : configuration.breach? flag constraint with
    | none => exact .unbroken (breach?_eq_none_iff.1 hbreach) (ih h)
    | some violation =>
      have hbroken := breach?_eq_some_iff.1 hbreach
      have happend : ∀ more, kept ++ violation :: more = kept ++ [violation] ++ more := by
        simp
      cases constraint with
      | requires target =>
        have hkind : violation.kind = .requires := hbroken.kind_eq
        simp only [hkind]
        rw [happend]
        refine .requirement hbroken (ih fun pair => ?_)
        simp [h, hkind]
      | excludes target =>
        have hkind : violation.kind = .excludes := hbroken.kind_eq
        -- the test on ordered pairs is the test on the two flags
        have hpair : ∀ earlier : Violation,
            earlier.kind = .excludes ∧ earlier.pair = violation.pair ↔
              earlier.Excludes flag target := by
          intro earlier
          rw [Violation.pair_eq_iff, hbroken.flag_eq, hbroken.otherFlag_eq]
          rfl
        simp only [hkind]
        split
        · next hold =>
          refine .repeated hbroken ?_ (ih h)
          obtain ⟨earlier, hmem, hearlier⟩ := (h _).1 hold
          exact ⟨earlier, hmem, (hpair earlier).1 hearlier⟩
        · next hnew =>
          rw [happend]
          refine .exclusion hbroken ?_ (ih fun pair => ?_)
          · intro earlier hmem hearlier
            exact hnew ((h _).2 ⟨earlier, hmem, (hpair earlier).2 hearlier⟩)
          · simp only [List.mem_cons, h, List.mem_append, List.not_mem_nil, or_false, or_and_right,
              exists_or, exists_eq_left, hkind, true_and]
            rw [or_comm, eq_comm]

namespace Scan

variable {kept final final' : List Violation} {declarations : List (String × Constraint)}

/-- The declarations and the violations kept before determine the final ones. -/
theorem unique (h : configuration.Scan kept declarations final)
    (h' : configuration.Scan kept declarations final') : final = final' := by
  -- at each declaration only the move of the same name fits: a constraint is broken or not, and
  -- its two flags are kept or not
  induction h with
  | done => cases h'; rfl
  | unbroken holds tail ih =>
    cases h' with
    | unbroken _ tail' => exact ih tail'
    | requirement broken => exact absurd broken (holds _)
    | exclusion broken => exact absurd broken (holds _)
    | repeated broken => exact absurd broken (holds _)
  | requirement broken tail ih =>
    cases h' with
    | unbroken holds => exact absurd broken (holds _)
    | requirement broken' tail' => exact ih (broken.unique broken' ▸ tail')
  | exclusion broken new tail ih =>
    cases h' with
    | unbroken holds => exact absurd broken (holds _)
    | exclusion broken' _ tail' => exact ih (broken.unique broken' ▸ tail')
    | repeated _ old =>
      obtain ⟨earlier, hmem, hearlier⟩ := old
      exact absurd hearlier (new earlier hmem)
  | repeated broken old tail ih =>
    cases h' with
    | unbroken holds => exact absurd broken (holds _)
    | exclusion _ new =>
      obtain ⟨earlier, hmem, hearlier⟩ := old
      exact absurd hearlier (new earlier hmem)
    | repeated _ _ tail' => exact ih tail'

/-- Every final violation was kept before or is what some declaration breaks. -/
theorem sound (h : configuration.Scan kept declarations final) {violation : Violation}
    (hmem : violation ∈ final) : violation ∈ kept ∨
      ∃ declaration ∈ declarations,
        configuration.Breaks declaration.1 declaration.2 violation := by
  have hlater : ∀ {first : String × Constraint} {rest : List (String × Constraint)},
      (∃ declaration ∈ rest, configuration.Breaks declaration.1 declaration.2 violation) →
        ∃ declaration ∈ first :: rest,
          configuration.Breaks declaration.1 declaration.2 violation := by
    rintro first rest ⟨declaration, hdeclaration, hbreaks⟩
    exact ⟨declaration, List.mem_cons_of_mem first hdeclaration, hbreaks⟩
  -- a violation that is kept anew is what the first declaration breaks
  have hnew : ∀ {kept : List Violation} {new : Violation} {flag : String}
      {constraint : Constraint} {rest : List (String × Constraint)},
      configuration.Breaks flag constraint new →
        (violation ∈ kept ++ [new] ∨
          ∃ declaration ∈ rest, configuration.Breaks declaration.1 declaration.2 violation) →
        violation ∈ kept ∨ ∃ declaration ∈ (flag, constraint) :: rest,
          configuration.Breaks declaration.1 declaration.2 violation := by
    rintro kept new flag constraint rest broken (hkept | hrest)
    · rcases List.mem_append.1 hkept with hkept | hmem
      · exact .inl hkept
      · exact .inr ⟨_, List.mem_cons_self, List.mem_singleton.1 hmem ▸ broken⟩
    · exact .inr (hlater hrest)
  induction h with
  | done => exact .inl hmem
  | unbroken _ _ ih => exact (ih hmem).imp_right hlater
  | requirement broken _ ih => exact hnew broken (ih hmem)
  | exclusion broken _ _ ih => exact hnew broken (ih hmem)
  | repeated _ _ _ ih => exact (ih hmem).imp_right hlater

/-- Declarations with a missing end can be left out. -/
theorem filter_present (h : configuration.Scan kept declarations final) :
    configuration.Scan kept
      (declarations.filter fun declaration =>
        declaration.1 ∈ configuration.flags ∧ declaration.2.target ∈ configuration.flags)
      final := by
  induction h with
  | done => exact .done
  | unbroken holds _ ih =>
    rw [List.filter_cons]
    split
    · exact .unbroken holds ih
    · exact ih
  | requirement broken _ ih =>
    rw [List.filter_cons_of_pos (by simpa using broken.mem_flags)]
    exact .requirement broken ih
  | exclusion broken new _ ih =>
    rw [List.filter_cons_of_pos (by simpa using broken.mem_flags)]
    exact .exclusion broken new ih
  | repeated broken old _ ih =>
    rw [List.filter_cons_of_pos (by simpa using broken.mem_flags)]
    exact .repeated broken old ih

/-! ## Flags that exclude each other -/

/-- Two flags are among the final exclusions exactly when they were kept before, or both are
enabled and one of them declares it. -/
theorem exists_excludes_iff (h : configuration.Scan kept declarations final) (a b : String) :
    (∃ violation ∈ final, violation.Excludes a b) ↔
      (∃ violation ∈ kept, violation.Excludes a b) ∨
        configuration.stateOf? a = some .enabled ∧ configuration.stateOf? b = some .enabled ∧
          ((a, .excludes b) ∈ declarations ∨ (b, .excludes a) ∈ declarations) := by
  induction h with
  | done => simp
  | @unbroken kept final flag constraint rest holds _ ih =>
    -- between enabled flags this declaration would be broken
    have hne : configuration.stateOf? a = some .enabled →
        configuration.stateOf? b = some .enabled →
        (a, .excludes b) ≠ (flag, constraint) ∧ (b, .excludes a) ≠ (flag, constraint) := by
      refine fun ha hb => ⟨?_, ?_⟩ <;> rintro ⟨⟩
      · exact (exists_breaks_excludes_iff.2 ⟨ha, hb⟩).elim holds
      · exact (exists_breaks_excludes_iff.2 ⟨hb, ha⟩).elim holds
    rw [ih]
    simp only [List.mem_cons]
    refine or_congr_right (and_congr_right fun ha => and_congr_right fun hb => ?_)
    simp [(hne ha hb).1, (hne ha hb).2]
  | @requirement kept final flag target violation rest broken _ ih =>
    have hkind : violation.kind = .requires := broken.kind_eq
    rw [ih]
    simp [or_and_right, exists_or, Violation.Excludes, hkind]
  | @exclusion kept final flag target violation rest broken _ _ ih =>
    obtain ⟨hon, hotherOn⟩ := exists_breaks_excludes_iff.1 ⟨_, broken⟩
    -- the new violation accounts for this declaration, in either order of the flags
    have hiff : violation.Excludes a b ↔
        flag = a ∧ target = b ∨ flag = b ∧ target = a := by
      rw [Violation.Excludes, broken.kind_eq, broken.flag_eq, broken.otherFlag_eq]
      simp [Constraint.kind, Constraint.target]
    rw [ih]
    simp only [List.mem_append, List.mem_cons, List.not_mem_nil, or_false, or_and_right,
      exists_or, exists_eq_left, hiff, Prod.mk.injEq, Constraint.excludes.injEq]
    constructor
    · rintro ((hkept | ⟨rfl, rfl⟩ | ⟨rfl, rfl⟩) | ⟨ha, hb, hrest⟩)
      · exact .inl hkept
      · exact .inr ⟨hon, hotherOn, .inl (.inl ⟨rfl, rfl⟩)⟩
      · exact .inr ⟨hotherOn, hon, .inr (.inl ⟨rfl, rfl⟩)⟩
      · exact .inr ⟨ha, hb, hrest.imp .inr .inr⟩
    · rintro (hkept | ⟨ha, hb, (⟨rfl, rfl⟩ | hrest) | ⟨rfl, rfl⟩ | hrest⟩)
      · exact .inl (.inl hkept)
      · exact .inl (.inr (.inl ⟨rfl, rfl⟩))
      · exact .inr ⟨ha, hb, .inl hrest⟩
      · exact .inl (.inr (.inr ⟨rfl, rfl⟩))
      · exact .inr ⟨ha, hb, .inr hrest⟩
  | @repeated kept final flag target violation rest broken old _ ih =>
    -- the earlier violation accounts for this declaration
    obtain ⟨earlier, hmem, hearlier⟩ := old
    rw [ih]
    simp only [List.mem_cons, Prod.mk.injEq, Constraint.excludes.injEq]
    constructor
    · rintro (hkept | ⟨ha, hb, hrest⟩)
      · exact .inl hkept
      · exact .inr ⟨ha, hb, hrest.imp .inr .inr⟩
    · rintro (hkept | ⟨ha, hb, (⟨rfl, rfl⟩ | hrest) | ⟨rfl, rfl⟩ | hrest⟩)
      · exact .inl hkept
      · exact .inl ⟨earlier, hmem, hearlier⟩
      · exact .inr ⟨ha, hb, .inl hrest⟩
      · exact .inl ⟨earlier, hmem, hearlier.symm⟩
      · exact .inr ⟨ha, hb, .inr hrest⟩

/-- If no two flags were kept twice, none are in the end. -/
theorem pairwise_excludes (h : configuration.Scan kept declarations final)
    (hkept : kept.Pairwise fun first second =>
      ∀ a b, first.Excludes a b → ¬ second.Excludes a b) :
    final.Pairwise fun first second => ∀ a b, first.Excludes a b → ¬ second.Excludes a b := by
  induction h with
  | done => exact hkept
  | unbroken _ _ ih => exact ih hkept
  | @requirement _ _ _ _ violation _ broken _ ih =>
    have hkind : violation.kind = .requires := broken.kind_eq
    refine ih (List.pairwise_append.2 ⟨hkept, List.pairwise_singleton _ _, ?_⟩)
    intro first _ second hsecond a b _ hexcludes
    obtain rfl := List.mem_singleton.1 hsecond
    cases hkind.symm.trans hexcludes.1
  | exclusion broken new _ ih =>
    refine ih (List.pairwise_append.2 ⟨hkept, List.pairwise_singleton _ _, ?_⟩)
    intro first hfirst second hsecond a b hexcludes hagain
    obtain rfl := List.mem_singleton.1 hsecond
    have hsame := hexcludes.of_excludes hagain
    rw [broken.flag_eq, broken.otherFlag_eq] at hsame
    exact new first hfirst hsame
  | repeated _ _ _ ih => exact ih hkept

end Scan

/-- A declaration about other flags may stand in front. -/
theorem DeclaredFirst.cons {rest : List (String × Constraint)} {a b : String}
    (h : DeclaredFirst rest a b) {first : String × Constraint}
    (hne : first ≠ (a, .excludes b)) (hne' : first ≠ (b, .excludes a)) :
    DeclaredFirst (first :: rest) a b := by
  obtain ⟨before, after, rfl, hown, hother⟩ := h
  refine ⟨first :: before, after, rfl, ?_, ?_⟩
  · simpa [Ne.symm hne] using hown
  · simpa [Ne.symm hne'] using hother

/-- A declaration is the first one if nothing stands in front of it. -/
theorem declaredFirst_cons (rest : List (String × Constraint)) (a b : String) :
    DeclaredFirst ((a, .excludes b) :: rest) a b :=
  ⟨[], rest, rfl, List.not_mem_nil, List.not_mem_nil⟩

/-- A final exclusion was kept before, or it is new and belongs to the first declaration that
one of its flags makes about the other. -/
theorem Scan.declaredFirst {kept final : List Violation}
    {declarations : List (String × Constraint)}
    (h : configuration.Scan kept declarations final) {violation : Violation}
    (hmem : violation ∈ final) (hkind : violation.kind = .excludes) :
    violation ∈ kept ∨
      (∀ earlier ∈ kept, ¬ earlier.Excludes violation.flag violation.otherFlag) ∧
      configuration.Breaks violation.flag (.excludes violation.otherFlag) violation ∧
      DeclaredFirst declarations violation.flag violation.otherFlag := by
  -- induction along the scan: what holds of the rest holds with one more declaration in front, as
  -- long as that one is not about the same flags
  induction h with
  | done => exact .inl hmem
  | @unbroken kept final flag constraint rest holds _ ih =>
    refine (ih hmem).imp_right ?_
    rintro ⟨hkept, hbreaks, hfirst⟩
    -- between these enabled flags the declaration would be broken
    obtain ⟨hon, hotherOn⟩ := exists_breaks_excludes_iff.1 ⟨_, hbreaks⟩
    refine ⟨hkept, hbreaks, hfirst.cons ?_ ?_⟩
    · rintro ⟨⟩
      exact holds _ hbreaks
    · rintro ⟨⟩
      exact (exists_breaks_excludes_iff.2 ⟨hotherOn, hon⟩).elim holds
  | @requirement kept final flag target required rest broken _ ih =>
    rcases ih hmem with hlater | ⟨hkept, hbreaks, hfirst⟩
    · rcases List.mem_append.1 hlater with hkept | hnew
      · exact .inl hkept
      · obtain rfl := List.mem_singleton.1 hnew
        cases hkind.symm.trans broken.kind_eq
    · refine .inr ⟨fun earlier hearlier => hkept earlier (List.mem_append_left _ hearlier),
        hbreaks, hfirst.cons ?_ ?_⟩ <;>
        simp
  | @exclusion kept final flag target first rest broken new _ ih =>
    rcases ih hmem with hlater | ⟨hkept, hbreaks, hfirst⟩
    · rcases List.mem_append.1 hlater with hkept | hnew
      · exact .inl hkept
      · -- the violation is the one of this declaration, with nothing in front
        obtain rfl := List.mem_singleton.1 hnew
        have hflag : violation.flag = flag := broken.flag_eq
        have hother : violation.otherFlag = target := broken.otherFlag_eq
        subst hflag hother
        exact .inr ⟨new, broken, declaredFirst_cons rest _ _⟩
    · -- the violation of this declaration is kept, so it is about other flags
      have hnot := hkept first (List.mem_append_right _ (List.mem_singleton_self _))
      have hself := Violation.excludes_self broken.kind_eq
      rw [broken.flag_eq, broken.otherFlag_eq] at hself
      refine .inr ⟨fun earlier hearlier => hkept earlier (List.mem_append_left _ hearlier),
        hbreaks, hfirst.cons ?_ ?_⟩
      · rintro ⟨⟩
        exact hnot hself
      · rintro ⟨⟩
        exact hnot hself.symm
  | @repeated kept final flag target again rest broken old _ ih =>
    obtain ⟨earlier, hmemEarlier, hearlier⟩ := old
    refine (ih hmem).imp_right ?_
    rintro ⟨hkept, hbreaks, hfirst⟩
    refine ⟨hkept, hbreaks, hfirst.cons ?_ ?_⟩
    · rintro ⟨⟩
      exact hkept earlier hmemEarlier hearlier
    · rintro ⟨⟩
      exact hkept earlier hmemEarlier hearlier.symm

/-! ## The report -/

/-- The violations of the constraints of a registry are what a scan of all of them keeps. -/
theorem scan_violations (configuration : Configuration) (registry : Registry) :
    configuration.Scan [] registry.declarations (configuration.violations registry) := by
  have h := @scan_violationsAmong configuration [] [] registry.declarations (by simp)
  rwa [List.nil_append] at h

/-- The report of a configuration against a registry is sound and complete, and it names each
fault once. The configuration may come from any other registry. -/
theorem reports_violations (configuration : Configuration) (registry : Registry) :
    configuration.Reports registry (configuration.violations registry) := by
  have hscan := configuration.scan_violations registry
  refine
    { scan_iff := fun final => ⟨fun h => h.unique hscan, fun h => h ▸ hscan⟩
      scan_present := hscan.filter_present
      exists_excludes_iff := fun a b => ?_
      excludes_once := hscan.pairwise_excludes .nil
      first_declaration := fun violation hmem hkind => ?_
      sources := fun violation hmem => ?_ }
  · rw [hscan.exists_excludes_iff]
    simp
  · obtain hkept | ⟨-, -, hfirst⟩ := hscan.declaredFirst hmem hkind
    · cases hkept
    · exact hfirst
  · obtain hkept | ⟨declaration, -, hbreaks⟩ := hscan.sound hmem
    · cases hkept
    · exact hbreaks.sources

end Configuration

end LayeredFlags
