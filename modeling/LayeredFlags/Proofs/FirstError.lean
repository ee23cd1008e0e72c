import LayeredFlags.Proofs.Outcome
/-!
# First Errors

Checks that go through a list from its front stop at the first item that is refused, and answer
with the error of that item. `FirstError` says so without saying how the list is gone through: as
a search, as a run of steps, or as a run over lists inside of the list.

## Main definitions

* `FirstError`: an error is that of the first item of a list that has one.

## Main results

* `exists_firstError_iff`: there is a first error exactly when some item has an error;
* `firstError_append_iff`, `firstError_flatMap_iff`: joined lists;
* `findSome?_eq_some_iff_firstError`: a search finds the first error;
* `foldlM_eq_error_iff_firstError`: a run of steps fails with the first error.
-/

namespace LayeredFlags

variable {ε α β : Type} {refused : α → ε → Prop} {a : α} {items others : List α} {error : ε}

/-- The error is the one for which an item of the list is refused, and no item before that one
is refused. -/
def FirstError (refused : α → ε → Prop) (items : List α) (error : ε) : Prop :=
  ∃ before item after, items = before ++ item :: after ∧
    (∀ earlier ∈ before, ∀ other, ¬ refused earlier other) ∧ refused item error

theorem not_firstError_nil : ¬ FirstError refused [] error := by
  rintro ⟨before, item, after, h, -⟩
  simp at h

/-- The first error of a list is that of its head, or of its tail if the head has none. -/
theorem firstError_cons_iff :
    FirstError refused (a :: items) error ↔
      refused a error ∨ (∀ other, ¬ refused a other) ∧ FirstError refused items error := by
  constructor
  · rintro ⟨before, item, after, heq, hbefore, hitem⟩
    cases before with
    | nil =>
      obtain ⟨rfl, rfl⟩ := List.cons.inj heq
      exact .inl hitem
    | cons first before =>
      obtain ⟨rfl, rfl⟩ := List.cons.inj heq
      rw [List.forall_mem_cons] at hbefore
      exact .inr ⟨hbefore.1, before, item, after, rfl, hbefore.2, hitem⟩
  · rintro (hitem | ⟨ha, before, item, after, rfl, hbefore, hitem⟩)
    · exact ⟨[], a, items, rfl, List.forall_mem_nil _, hitem⟩
    · exact ⟨a :: before, item, after, rfl, List.forall_mem_cons.2 ⟨ha, hbefore⟩, hitem⟩

/-- Some item is the first one with an error exactly when some item has one. -/
theorem exists_firstError_iff :
    (∃ error, FirstError refused items error) ↔ ∃ item ∈ items, ∃ error, refused item error := by
  induction items with
  | nil => simp [not_firstError_nil]
  | cons a rest ih =>
    simp only [firstError_cons_iff, List.exists_mem_cons_iff, ← ih]
    constructor
    · rintro ⟨error, ha | ⟨-, hrest⟩⟩
      · exact .inl ⟨error, ha⟩
      · exact .inr ⟨error, hrest⟩
    · intro h
      by_cases ha : ∃ error, refused a error
      · exact ha.imp fun error => .inl
      · obtain ⟨error, hrest⟩ := h.resolve_left ha
        exact ⟨error, .inr ⟨not_exists.1 ha, hrest⟩⟩

/-- The first error of joined lists is that of the first list, or of the second one if no item of
the first is refused. -/
theorem firstError_append_iff :
    FirstError refused (items ++ others) error ↔
      FirstError refused items error ∨
        (∀ item ∈ items, ∀ other, ¬ refused item other) ∧ FirstError refused others error := by
  induction items with
  | nil => simp [not_firstError_nil]
  | cons a rest ih =>
    simp only [List.cons_append, firstError_cons_iff, ih, List.forall_mem_cons, and_assoc,
      and_or_left, or_assoc]

/-- A list is not refused exactly when none of its items is. -/
theorem forall_not_firstError_iff :
    (∀ error, ¬ FirstError refused items error) ↔
      ∀ item ∈ items, ∀ error, ¬ refused item error := by
  rw [← not_exists, exists_firstError_iff]
  push Not
  rfl

/-- The first error of lists that are joined is the first among the first errors of the lists. -/
theorem firstError_flatMap_iff {parts : β → List α} {groups : List β} :
    FirstError refused (groups.flatMap parts) error ↔
      FirstError (fun group => FirstError refused (parts group)) groups error := by
  induction groups with
  | nil => simp [not_firstError_nil]
  | cons group rest ih =>
    rw [List.flatMap_cons, firstError_append_iff, firstError_cons_iff, ih,
      forall_not_firstError_iff]

/-- The items may be mapped before they are checked. -/
theorem firstError_map_iff {f : β → α} {items : List β} :
    FirstError refused (items.map f) error ↔
      FirstError (fun item => refused (f item)) items error := by
  induction items with
  | nil => simp [not_firstError_nil]
  | cons item rest ih => rw [List.map_cons, firstError_cons_iff, firstError_cons_iff, ih]

/-- Items may be refused for reasons that are stated otherwise. -/
theorem firstError_congr {refused' : α → ε → Prop}
    (h : ∀ item ∈ items, ∀ error, refused item error ↔ refused' item error) :
    FirstError refused items error ↔ FirstError refused' items error := by
  induction items with
  | nil => simp [not_firstError_nil]
  | cons a rest ih =>
    rw [List.forall_mem_cons] at h
    rw [firstError_cons_iff, firstError_cons_iff, ih h.2]
    simp only [h.1]

/-- A search finds the first error. -/
theorem findSome?_eq_some_iff_firstError {fault? : α → Option ε} :
    items.findSome? fault? = some error ↔
      FirstError (fun item error => fault? item = some error) items error := by
  rw [List.findSome?_eq_some_iff, FirstError]
  simp only [Option.eq_none_iff_forall_ne_some]
  constructor
  · rintro ⟨before, item, after, heq, hitem, hbefore⟩
    exact ⟨before, item, after, heq, hbefore, hitem⟩
  · rintro ⟨before, item, after, heq, hbefore, hitem⟩
    exact ⟨before, item, after, heq, hitem, hbefore⟩

/-- The first item that a test finds has the first error, if that is what the test finds. -/
theorem map_find?_eq_some_iff_firstError {test : α → Bool} {f : α → ε} :
    (items.find? test).map f = some error ↔
      FirstError (fun item error => test item = true ∧ f item = error) items error := by
  induction items with
  | nil => simp [not_firstError_nil]
  | cons a rest ih =>
    rw [firstError_cons_iff, ← ih]
    cases htest : test a with
    | true => simp [htest]
    | false => simp [htest]

/-- A run of steps fails with the first error, if what a step refuses does not change in the
run. -/
theorem foldlM_eq_error_iff_firstError {step : β → α → Except ε β} (Kept : β → Prop) {start : β}
    (hstart : Kept start) (hkept : ∀ state item next, Kept state → step state item = .ok next →
      Kept next)
    (hrefused : ∀ state item error, Kept state →
      (step state item = .error error ↔ refused item error)) :
    items.foldlM step start = .error error ↔ FirstError refused items error := by
  -- every step of the run starts in a state that is kept
  induction items generalizing start with
  | nil => simp [not_firstError_nil]
  | cons item rest ih =>
    rw [List.foldlM_cons, firstError_cons_iff, bind_eq_error_iff, hrefused start item error hstart]
    refine or_congr_right ?_
    constructor
    · rintro ⟨next, hstep, hrest⟩
      refine ⟨fun other hother => ?_, (ih (hkept start item next hstart hstep)).1 hrest⟩
      rw [← hrefused start item other hstart, hstep] at hother
      cases hother
    · rintro ⟨hitem, hrest⟩
      cases hstep : step start item with
      | error other => exact absurd ((hrefused start item other hstart).1 hstep) (hitem other)
      | ok next => exact ⟨next, rfl, (ih (hkept start item next hstart hstep)).2 hrest⟩

end LayeredFlags
