/-!
# Repeats in a List

`firstRepeat?` finds the earliest element that repeats an earlier one, and `mergeRepeats`
joins items that agree, keeping the first item of each key.

The main statements say that a list without a first repeat has distinct elements
(`firstRepeat?_eq_none_iff`), that the keys of merged items are distinct
(`nodup_of_mergeRepeats_eq_ok`), that merging makes up no items
(`mem_of_mergeRepeats_eq_ok`), and that items with distinct keys stay as they are
(`mergeRepeats_eq_ok_of_nodup`).
-/

namespace LayeredFlags

variable {α : Type}

/-- The earliest element that is among `seen` or repeats an earlier one. -/
def firstRepeatAfter [DecidableEq α] (seen : List α) : List α → Option α
  | [] => none
  | a :: rest => if a ∈ seen then some a else firstRepeatAfter (a :: seen) rest

/-- The earliest element that repeats an earlier one. -/
def firstRepeat? [DecidableEq α] (list : List α) : Option α :=
  firstRepeatAfter [] list

/-- Nothing repeats exactly when the elements are distinct and none was seen before. -/
theorem firstRepeatAfter_eq_none_iff [DecidableEq α] {seen list : List α} :
    firstRepeatAfter seen list = none ↔ list.Nodup ∧ ∀ a ∈ list, a ∉ seen := by
  induction list generalizing seen with
  | nil => simp [firstRepeatAfter]
  | cons a rest ih =>
    by_cases h : a ∈ seen
    · simp [firstRepeatAfter, h]
    · simp only [firstRepeatAfter, h, if_false, ih, List.nodup_cons, List.mem_cons, not_or,
        forall_eq_or_imp, not_false_eq_true, true_and]
      constructor
      · rintro ⟨hnd, hne⟩
        exact ⟨⟨fun hmem => (hne a hmem).1 rfl, hnd⟩, fun b hb => (hne b hb).2⟩
      · rintro ⟨⟨hnot, hnd⟩, hns⟩
        exact ⟨hnd, fun b hb => ⟨fun heq => hnot (heq ▸ hb), hns b hb⟩⟩

/-- A list has no first repeat exactly when its elements are distinct. -/
theorem firstRepeat?_eq_none_iff [DecidableEq α] {list : List α} :
    firstRepeat? list = none ↔ list.Nodup := by
  simp [firstRepeat?, firstRepeatAfter_eq_none_iff]

/-- Add items to those kept, leaving out an item that is kept already. An item whose key is
kept with another item is refused, and the key is the error. -/
def mergeRepeats [DecidableEq α] (key : α → String) (kept : List α) :
    List α → Except String (List α)
  | [] => .ok kept
  | a :: rest =>
    match kept.find? (key · == key a) with
    | none => mergeRepeats key (kept ++ [a]) rest
    | some b => if b = a then mergeRepeats key kept rest else .error (key a)

/-- If the keys of the kept items are distinct, those of the merged items are too. -/
theorem nodup_of_mergeRepeats_eq_ok [DecidableEq α] {key : α → String}
    {kept items merged : List α} (h : mergeRepeats key kept items = .ok merged)
    (hkept : (kept.map key).Nodup) : (merged.map key).Nodup := by
  induction items generalizing kept with
  | nil =>
    simp only [mergeRepeats, Except.ok.injEq] at h
    exact h ▸ hkept
  | cons a rest ih =>
    simp only [mergeRepeats] at h
    split at h
    · next hfind =>
      refine ih h ?_
      simp only [List.find?_eq_none, beq_iff_eq] at hfind
      simp only [List.map_append, List.map_cons, List.map_nil, List.nodup_append, hkept,
        List.nodup_cons, List.not_mem_nil, not_false_eq_true, List.nodup_nil, and_self,
        List.mem_map, List.mem_singleton, true_and]
      rintro _ ⟨b, hb, rfl⟩ _ rfl
      exact hfind b hb
    · split at h
      · exact ih h hkept
      · cases h

/-- A merged item was kept or is one of those that were added. -/
theorem mem_of_mergeRepeats_eq_ok [DecidableEq α] {key : α → String}
    {kept items merged : List α} (h : mergeRepeats key kept items = .ok merged) {item : α}
    (hitem : item ∈ merged) : item ∈ kept ∨ item ∈ items := by
  induction items generalizing kept with
  | nil =>
    simp only [mergeRepeats, Except.ok.injEq] at h
    exact .inl (h ▸ hitem)
  | cons a rest ih =>
    simp only [mergeRepeats] at h
    split at h
    · rcases ih h with hkept | hrest
      · rcases List.mem_append.1 hkept with hkept | ha
        · exact .inl hkept
        · exact .inr (List.mem_singleton.1 ha ▸ List.mem_cons_self)
      · exact .inr (List.mem_cons_of_mem a hrest)
    · split at h
      · exact (ih h).imp_right (List.mem_cons_of_mem a)
      · cases h

/-- Items whose keys are distinct, and not those of kept ones, are all kept. -/
theorem mergeRepeats_eq_ok_of_nodup [DecidableEq α] {key : α → String} {kept items : List α}
    (h : ((kept ++ items).map key).Nodup) :
    mergeRepeats key kept items = .ok (kept ++ items) := by
  induction items generalizing kept with
  | nil => simp [mergeRepeats]
  | cons a rest ih =>
    have hnone : kept.find? (key · == key a) = none := by
      rw [List.map_append, List.nodup_append] at h
      simp only [List.find?_eq_none, beq_iff_eq]
      intro b hb
      exact h.2.2 (key b) (List.mem_map.2 ⟨b, hb, rfl⟩) (key a) List.mem_cons_self
    have hassoc : kept ++ a :: rest = kept ++ [a] ++ rest := by simp
    simp only [mergeRepeats, hnone]
    rw [hassoc] at h ⊢
    exact ih h

end LayeredFlags
