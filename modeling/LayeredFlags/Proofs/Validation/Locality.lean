import LayeredFlags.Proofs.Validation.Report
/-!
# Locality of Validation

What a report says of two flags depends on the entries of these two flags only. That is not
evident from the pass over the declarations, which leaves out an exclusion of two flags that it
has reported before: what it has reported depends on all flags. But only an exclusion of the
same two flags counts there, so that a scan of all declarations, seen from some of the flags, is
a scan of the declarations between them.

## Main definitions

* `Within`, `Violation.Within`: a declaration and a violation are about two of the given flags.

## Main results

* `Configuration.Scan.filter`: a scan as it is seen from some of the flags;
* `Configuration.Scan.congr`: a scan of the declarations between flags that have the same entries;
* `Configuration.filter_violations_congr`: configurations that agree on some flags have the same
  violations between them, in the same order.
-/

namespace LayeredFlags

/-- The declared constraint is about two of the flags. -/
def Within (flags : String → Prop) (declaration : String × Constraint) : Prop :=
  flags declaration.1 ∧ flags declaration.2.target

/-- The violation is about two of the flags. -/
def Violation.Within (flags : String → Prop) (violation : Violation) : Prop :=
  flags violation.flag ∧ flags violation.otherFlag

section Decidable

variable (flags : String → Prop) [DecidablePred flags]

instance : DecidablePred (Within flags) :=
  fun declaration => inferInstanceAs (Decidable (flags declaration.1 ∧ flags declaration.2.target))

instance : DecidablePred (Violation.Within flags) :=
  fun violation => inferInstanceAs (Decidable (flags violation.flag ∧ flags violation.otherFlag))

end Decidable

variable {flags : String → Prop}

/-- A violation is about two of the flags if it excludes two of them. -/
theorem Violation.Excludes.within {violation : Violation} {a b : String}
    (h : violation.Excludes a b) (ha : flags a) (hb : flags b) : violation.Within flags := by
  rcases h.2 with ⟨rfl, rfl⟩ | ⟨rfl, rfl⟩
  · exact ⟨ha, hb⟩
  · exact ⟨hb, ha⟩

namespace Configuration

variable {configuration before after : Configuration}

/-- A violation is about the flags of the constraint that is broken. -/
theorem Breaks.within_iff {flag : String} {constraint : Constraint} {violation : Violation}
    (h : configuration.Breaks flag constraint violation) :
    violation.Within flags ↔ Within flags (flag, constraint) := by
  rw [Violation.Within, Within, h.flag_eq, h.otherFlag_eq]

/-- One more violation is seen from some of the flags if the constraint is about two of them. -/
theorem Breaks.filter_concat [DecidablePred flags] {flag : String} {constraint : Constraint}
    {violation : Violation} (h : configuration.Breaks flag constraint violation)
    (kept : List Violation) :
    (kept ++ [violation]).filter (·.Within flags) =
      kept.filter (·.Within flags) ++
        if Within flags (flag, constraint) then [violation] else [] := by
  rw [List.filter_append, List.filter_singleton]
  by_cases hwithin : Within flags (flag, constraint)
  · rw [if_pos hwithin, decide_eq_true (h.within_iff.2 hwithin), cond_true]
  · rw [if_neg hwithin, decide_eq_false (mt h.within_iff.1 hwithin), cond_false]

/-- Configurations that agree on some flags break the same constraints between them. -/
theorem breaks_congr (hagree : ∀ flag, flags flag → before.find? flag = after.find? flag)
    {flag : String} {constraint : Constraint} (hwithin : Within flags (flag, constraint))
    {violation : Violation} :
    before.Breaks flag constraint violation ↔ after.Breaks flag constraint violation := by
  obtain ⟨hflag, htarget⟩ := hwithin
  rw [← breach?_eq_some_iff, ← breach?_eq_some_iff, breach?, breach?, hagree _ hflag,
    hagree _ htarget]

namespace Scan

variable {kept final : List Violation} {declarations : List (String × Constraint)}

/-- What a scan keeps of some of the flags is what it would keep of the declarations between
them alone. -/
theorem filter [DecidablePred flags] (h : configuration.Scan kept declarations final) :
    configuration.Scan (kept.filter (·.Within flags)) (declarations.filter (Within flags ·))
      (final.filter (·.Within flags)) := by
  -- a declaration between other flags is passed over, with the violation that it may give
  induction h with
  | done => exact .done
  | @unbroken _ _ flag constraint _ holds _ ih =>
    by_cases hwithin : Within flags (flag, constraint)
    · rw [List.filter_cons_of_pos (by simpa using hwithin)]
      exact .unbroken holds ih
    · rw [List.filter_cons_of_neg (by simpa using hwithin)]
      exact ih
  | @requirement _ _ flag target _ _ broken _ ih =>
    rw [broken.filter_concat] at ih
    by_cases hwithin : Within flags (flag, .requires target)
    · rw [List.filter_cons_of_pos (by simpa using hwithin)]
      rw [if_pos hwithin] at ih
      exact .requirement broken ih
    · rw [List.filter_cons_of_neg (by simpa using hwithin)]
      rwa [if_neg hwithin, List.append_nil] at ih
  | @exclusion _ _ flag target _ _ broken new _ ih =>
    rw [broken.filter_concat] at ih
    by_cases hwithin : Within flags (flag, .excludes target)
    · rw [List.filter_cons_of_pos (by simpa using hwithin)]
      rw [if_pos hwithin] at ih
      exact .exclusion broken (fun earlier hmem => new earlier (List.mem_filter.1 hmem).1) ih
    · rw [List.filter_cons_of_neg (by simpa using hwithin)]
      rwa [if_neg hwithin, List.append_nil] at ih
  | @repeated _ _ flag target _ _ broken old _ ih =>
    by_cases hwithin : Within flags (flag, .excludes target)
    · rw [List.filter_cons_of_pos (by simpa using hwithin)]
      -- the earlier violation is about the same two flags, so it is seen as well
      obtain ⟨earlier, hmem, hearlier⟩ := old
      have hseen := decide_eq_true (hearlier.within hwithin.1 hwithin.2)
      exact .repeated broken ⟨earlier, List.mem_filter.2 ⟨hmem, hseen⟩, hearlier⟩ ih
    · rw [List.filter_cons_of_neg (by simpa using hwithin)]
      exact ih

/-- A scan is one of any configuration that has the same entries for the flags of all
declarations. -/
theorem congr (hagree : ∀ flag, flags flag → before.find? flag = after.find? flag)
    (h : before.Scan kept declarations final)
    (hwithin : ∀ declaration ∈ declarations, Within flags declaration) :
    after.Scan kept declarations final := by
  -- each move of the scan asks whether a constraint is broken, and both agree on the answer
  induction h with
  | done => exact .done
  | unbroken holds _ ih =>
    obtain ⟨hfirst, hrest⟩ := List.forall_mem_cons.1 hwithin
    exact .unbroken (fun violation => mt (breaks_congr hagree hfirst).2 (holds violation))
      (ih hrest)
  | requirement broken _ ih =>
    obtain ⟨hfirst, hrest⟩ := List.forall_mem_cons.1 hwithin
    exact .requirement ((breaks_congr hagree hfirst).1 broken) (ih hrest)
  | exclusion broken new _ ih =>
    obtain ⟨hfirst, hrest⟩ := List.forall_mem_cons.1 hwithin
    exact .exclusion ((breaks_congr hagree hfirst).1 broken) new (ih hrest)
  | repeated broken old _ ih =>
    obtain ⟨hfirst, hrest⟩ := List.forall_mem_cons.1 hwithin
    exact .repeated ((breaks_congr hagree hfirst).1 broken) old (ih hrest)

end Scan

/-- Configurations that agree on some flags have the same violations between these flags, in the
same order. -/
theorem filter_violations_congr [DecidablePred flags]
    (hagree : ∀ flag, flags flag → before.find? flag = after.find? flag) (registry : Registry) :
    (before.violations registry).filter (·.Within flags) =
      (after.violations registry).filter (·.Within flags) := by
  -- both are what one scan keeps of the declarations between the flags
  have hwithin : ∀ declaration ∈ registry.declarations.filter (Within flags ·),
      Within flags declaration :=
    fun declaration hmem => of_decide_eq_true (List.mem_filter.1 hmem).2
  have hbefore := (before.scan_violations registry).filter.congr hagree hwithin
  exact hbefore.unique (after.scan_violations registry).filter

end Configuration

end LayeredFlags
