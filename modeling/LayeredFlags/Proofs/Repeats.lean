import LayeredFlags.Distinct
import Mathlib.Data.List.Nodup
/-!
# Merging Repeats

Items are merged one after the other, and each is compared with those that are kept before it.
Those stand for all the items read so far: their keys are distinct, and no item that was read
differs from the kept one of its key. So merging succeeds exactly when no two items of one key
differ, and then it keeps the first item of each key. Otherwise it stops at the first item that
differs from an earlier one. Where nothing may repeat, it is the earliest repeat that is found.

## Main definitions

* `EarliestRepeat`: the first element of a list that stands behind another occurrence of itself;
* `Agree`: items of one key are the same item;
* `firstOfEach`: the items that stand behind no other one of their key;
* `FirstConflict`: the first item that differs from an earlier one of its key.

## Main results

* `firstRepeat?_eq_some_iff`: the earliest repeat is found;
* `mergeRepeats_append`: merging goes on with what was merged;
* `mem_mergeRepeats_iff`: what is kept;
* `mergeRepeats_eq_ok_iff`, `mergeRepeats_eq_error_iff`: when merging succeeds, with which items,
  and where it stops otherwise;
* `exists_mergeRepeats_of_perm`: merging the items in another order.
-/

namespace LayeredFlags

variable {α : Type} {key : α → String}

/-- At some place of the list the element repeats one that stands before it, and at no place before
that one anything is repeated. -/
def EarliestRepeat (list : List α) (a : α) : Prop :=
  ∃ before after, list = before ++ a :: after ∧ a ∈ before ∧ before.Nodup

/-- The earliest element that was seen before or is repeated. -/
theorem firstRepeatAfter_eq_some_iff [DecidableEq α] {seen list : List α} {a : α} :
    firstRepeatAfter seen list = some a ↔
      ∃ before after, list = before ++ a :: after ∧ (a ∈ seen ∨ a ∈ before) ∧ before.Nodup ∧
        ∀ b ∈ before, b ∉ seen := by
  -- induction on the list: what stands before an element is seen when it is come to
  induction list generalizing seen with
  | nil => simp [firstRepeatAfter]
  | cons first rest ih =>
    rw [firstRepeatAfter]
    split
    · next hseen =>
      constructor
      · intro h
        obtain rfl := Option.some.inj h
        exact ⟨[], rest, rfl, .inl hseen, List.nodup_nil, List.forall_mem_nil _⟩
      · rintro ⟨before, after, heq, -, -, hfresh⟩
        cases before with
        | nil => rw [(List.cons.inj heq).1]
        | cons b before =>
          obtain ⟨rfl, -⟩ := List.cons.inj heq
          exact absurd hseen (hfresh first List.mem_cons_self)
    · next hseen =>
      rw [ih]
      constructor
      · rintro ⟨before, after, rfl, hmem, hnodup, hfresh⟩
        have hfirst : first ∉ before := fun hmem => hfresh first hmem List.mem_cons_self
        refine ⟨first :: before, after, rfl, ?_, List.nodup_cons.2 ⟨hfirst, hnodup⟩,
          List.forall_mem_cons.2 ⟨hseen, fun b hb hmem => hfresh b hb (.tail _ hmem)⟩⟩
        rcases hmem with hmem | hmem
        · rcases List.mem_cons.1 hmem with rfl | hmem
          · exact .inr List.mem_cons_self
          · exact .inl hmem
        · exact .inr (.tail _ hmem)
      · rintro ⟨before, after, heq, hmem, hnodup, hfresh⟩
        cases before with
        | nil =>
          obtain ⟨rfl, rfl⟩ := List.cons.inj heq
          simp [hseen] at hmem
        | cons b before =>
          obtain ⟨rfl, rfl⟩ := List.cons.inj heq
          rw [List.nodup_cons] at hnodup
          rw [List.forall_mem_cons] at hfresh
          refine ⟨before, after, rfl, ?_, hnodup.2, fun c hc hseen => ?_⟩
          · simpa [or_assoc, or_left_comm] using hmem
          · rcases List.mem_cons.1 hseen with rfl | hseen
            · exact hnodup.1 hc
            · exact hfresh.2 c hc hseen

/-- The first repeat is the earliest one. -/
theorem firstRepeat?_eq_some_iff [DecidableEq α] {list : List α} {a : α} :
    firstRepeat? list = some a ↔ EarliestRepeat list a := by
  simp [firstRepeat?, firstRepeatAfter_eq_some_iff, EarliestRepeat]

/-- There is one earliest repeat only. -/
theorem EarliestRepeat.unique [DecidableEq α] {list : List α} {a b : α}
    (h : EarliestRepeat list a) (h' : EarliestRepeat list b) : a = b := by
  rw [← firstRepeat?_eq_some_iff] at h h'
  exact Option.some.inj (h.symm.trans h')

/-- A list with a repeat does not have distinct elements. -/
theorem EarliestRepeat.not_nodup {list : List α} {a : α} (h : EarliestRepeat list a) :
    ¬ list.Nodup := by
  rintro hnodup
  obtain ⟨before, after, rfl, hmem, -⟩ := h
  exact (List.nodup_append.1 hnodup).2.2 a hmem a List.mem_cons_self rfl

/-- Items of one key are the same item. -/
def Agree (key : α → String) (items : List α) : Prop :=
  ∀ a ∈ items, ∀ b ∈ items, key a = key b → a = b

/-- Items whose keys are distinct agree. -/
theorem agree_of_nodup {items : List α} (h : (items.map key).Nodup) : Agree key items :=
  fun _ ha _ hb heq => List.inj_on_of_nodup_map h ha hb heq

/-- Some of the items agree if all of them do. -/
theorem Agree.subset {items fewer : List α} (h : Agree key items) (hsub : fewer ⊆ items) :
    Agree key fewer :=
  fun a ha b hb heq => h a (hsub ha) b (hsub hb) heq

/-- The items without those that stand behind another one of their key. -/
def firstOfEach (key : α → String) : List α → List α
  | [] => []
  | a :: rest => a :: (firstOfEach key rest).filter (key · ≠ key a)

/-- The item differs from an earlier one of its key, and no two items before it do. -/
def FirstConflict (key : α → String) (items : List α) (a : α) : Prop :=
  ∃ before after, items = before ++ a :: after ∧ Agree key before ∧
    ∃ b ∈ before, key b = key a ∧ b ≠ a

/-- Behind items with its key an item is not the first one of that key. -/
theorem filter_firstOfEach_of_mem {kept : List α} {a : α} (h : key a ∈ kept.map key)
    (rest : List α) :
    (firstOfEach key (a :: rest)).filter (key · ∉ kept.map key) =
      (firstOfEach key rest).filter (key · ∉ kept.map key) := by
  rw [firstOfEach, List.filter_cons, if_neg (by simpa using h), List.filter_filter]
  refine List.filter_congr fun b _ => ?_
  rw [← Bool.decide_and, decide_eq_decide, and_iff_left_iff_imp]
  exact fun hnew heq => hnew (heq ▸ h)

/-- Behind items with other keys it is, and the next items stand behind it too. -/
theorem filter_firstOfEach_of_not_mem {kept : List α} {a : α} (h : key a ∉ kept.map key)
    (rest : List α) :
    (firstOfEach key (a :: rest)).filter (key · ∉ kept.map key) =
      a :: (firstOfEach key rest).filter (key · ∉ (kept ++ [a]).map key) := by
  rw [firstOfEach, List.filter_cons, if_pos (by simpa using h), List.filter_filter]
  refine congrArg (a :: ·) (List.filter_congr fun b _ => ?_)
  rw [← Bool.decide_and, decide_eq_decide, List.map_append, List.mem_append, not_or,
    List.map_singleton, List.mem_singleton]

/-- An item with a new key is kept, and the keys of the kept items stay distinct. -/
theorem nodup_map_concat {kept : List α} (hkept : (kept.map key).Nodup) {a : α}
    (h : key a ∉ kept.map key) : ((kept ++ [a]).map key).Nodup := by
  rw [List.map_append, List.map_singleton, ← List.concat_eq_append]
  exact List.Nodup.concat h hkept

variable [DecidableEq α]

/-- Merging goes on with what was merged. -/
theorem mergeRepeats_append (kept first second : List α) :
    mergeRepeats key kept (first ++ second) =
      mergeRepeats key kept first >>= (mergeRepeats key · second) := by
  induction first generalizing kept with
  | nil => rfl
  | cons a rest ih =>
    rw [List.cons_append, mergeRepeats, mergeRepeats]
    split
    · exact ih _
    · split
      · exact ih _
      · rfl

/-- The merged items are those that were kept before and those that were added. -/
theorem mem_mergeRepeats_iff {kept items merged : List α}
    (h : mergeRepeats key kept items = .ok merged) {item : α} :
    item ∈ merged ↔ item ∈ kept ∨ item ∈ items := by
  refine ⟨mem_of_mergeRepeats_eq_ok h, ?_⟩
  -- induction on the items that are left, for all that were kept before them
  induction items generalizing kept with
  | nil =>
    simp only [mergeRepeats, Except.ok.injEq] at h
    simp [h]
  | cons a rest ih =>
    simp only [mergeRepeats] at h
    split at h
    · intro hitem
      refine ih h ?_
      simpa [or_assoc] using hitem
    · next b hfind =>
      split at h
      · next hba =>
        have ha : a ∈ kept := hba ▸ List.mem_of_find?_eq_some hfind
        intro hitem
        refine ih h ?_
        rcases hitem with hkept | hitem
        · exact .inl hkept
        · rcases List.mem_cons.1 hitem with rfl | hrest
          · exact .inl ha
          · exact .inr hrest
      · cases h

/-- What is merged is what was kept before and the first item of every new key. -/
theorem mergeRepeats_eq_ok_iff_of_nodup {kept items merged : List α}
    (hkept : (kept.map key).Nodup) :
    mergeRepeats key kept items = .ok merged ↔
      Agree key (kept ++ items) ∧
        merged = kept ++ (firstOfEach key items).filter (key · ∉ kept.map key) := by
  -- induction on the items that are left: the kept ones always have distinct keys
  induction items generalizing kept with
  | nil =>
    have hagree : Agree key kept := agree_of_nodup hkept
    rw [mergeRepeats, firstOfEach, List.filter_nil, List.append_nil, and_iff_right hagree,
      Except.ok.injEq, eq_comm]
  | cons a rest ih =>
    rw [mergeRepeats]
    cases hfind : kept.find? (key · == key a) with
    | none =>
      have hnew : key a ∉ kept.map key := by simpa using hfind
      rw [ih (nodup_map_concat hkept hnew), filter_firstOfEach_of_not_mem hnew, List.append_assoc,
        List.append_assoc, List.singleton_append, List.singleton_append]
    | some b =>
      have hb : b ∈ kept := List.mem_of_find?_eq_some hfind
      have hkey : key b = key a := by simpa using List.find?_some hfind
      have hold : key a ∈ kept.map key := List.mem_map.2 ⟨b, hb, hkey⟩
      dsimp only
      split
      · next hba =>
        -- an item that was kept before adds nothing to those that have to agree
        have hsame : ∀ c, c ∈ kept ++ a :: rest ↔ c ∈ kept ++ rest := by
          have ha : a ∈ kept := hba ▸ hb
          simp only [List.mem_append, List.mem_cons]
          grind
        rw [ih hkept, filter_firstOfEach_of_mem hold]
        exact and_congr_left fun _ =>
          ⟨fun h => h.subset fun c => (hsame c).1, fun h => h.subset fun c => (hsame c).2⟩
      · next hba =>
        have hnot : ¬ Agree key (kept ++ a :: rest) := fun h =>
          hba (h b (List.mem_append_left _ hb) a (by simp) hkey)
        simp only [hnot, reduceCtorEq, false_and]

/-- Items are merged exactly if they agree, to the first ones of each key. -/
theorem mergeRepeats_eq_ok_iff {items merged : List α} :
    mergeRepeats key [] items = .ok merged ↔
      Agree key items ∧ merged = firstOfEach key items := by
  have hnil : (([] : List α).map key).Nodup := List.nodup_nil
  simpa using mergeRepeats_eq_ok_iff_of_nodup hnil

/-- Merging succeeds exactly when the items agree. -/
theorem exists_mergeRepeats_eq_ok_iff {items : List α} :
    (∃ merged, mergeRepeats key [] items = .ok merged) ↔ Agree key items := by
  simp only [mergeRepeats_eq_ok_iff, exists_eq_right]

/-- Merging stops at the first item that differs from one of its key which was kept or read
before. -/
theorem exists_conflict_of_mergeRepeats_eq_error {kept items : List α} {name : String}
    (hkept : (kept.map key).Nodup) (h : mergeRepeats key kept items = .error name) :
    ∃ before a after, items = before ++ a :: after ∧ Agree key (kept ++ before) ∧
      (∃ b ∈ kept ++ before, key b = key a ∧ b ≠ a) ∧ key a = name := by
  induction items generalizing kept with
  | nil => cases h
  | cons a rest ih =>
    rw [mergeRepeats] at h
    cases hfind : kept.find? (key · == key a) with
    | none =>
      rw [hfind] at h
      have hnew : key a ∉ kept.map key := by simpa using hfind
      obtain ⟨before, c, after, rfl, hconflict⟩ := ih (nodup_map_concat hkept hnew) h
      rw [List.append_assoc, List.singleton_append] at hconflict
      exact ⟨a :: before, c, after, rfl, hconflict⟩
    | some b =>
      have hb : b ∈ kept := List.mem_of_find?_eq_some hfind
      have hkey : key b = key a := by simpa using List.find?_some hfind
      rw [hfind] at h
      dsimp only at h
      split at h
      · next hba =>
        have ha : a ∈ kept := hba ▸ hb
        obtain ⟨before, c, after, rfl, hagree, ⟨d, hd, hdc⟩, hname⟩ := ih hkept h
        refine ⟨a :: before, c, after, rfl, hagree.subset fun e => ?_, ⟨d, ?_, hdc⟩, hname⟩
        · simp only [List.mem_append, List.mem_cons]
          grind
        · simp only [List.mem_append, List.mem_cons] at hd ⊢
          grind
      · next hba =>
        refine ⟨[], a, rest, rfl, ?_, ⟨b, ?_, hkey, hba⟩, Except.error.inj h⟩
        · rw [List.append_nil]
          exact agree_of_nodup hkept
        · rwa [List.append_nil]

/-- Merging stops at the first conflict. -/
theorem mergeRepeats_eq_error_iff {items : List α} {name : String} :
    mergeRepeats key [] items = .error name ↔ ∃ a, FirstConflict key items a ∧ key a = name := by
  constructor
  · intro h
    have hnil : (([] : List α).map key).Nodup := List.nodup_nil
    obtain ⟨before, a, after, hitems, hagree, hdiffers, hname⟩ :=
      exists_conflict_of_mergeRepeats_eq_error hnil h
    exact ⟨a, ⟨before, after, hitems, hagree, hdiffers⟩, hname⟩
  · rintro ⟨a, ⟨before, after, rfl, hagree, b, hb, hkey, hba⟩, rfl⟩
    -- what stands before the conflict is merged, and the item that differs is among it
    obtain ⟨merged, hmerged⟩ := exists_mergeRepeats_eq_ok_iff.2 hagree
    have hnodup := nodup_of_mergeRepeats_eq_ok hmerged List.nodup_nil
    have hmem : b ∈ merged := (mem_mergeRepeats_iff hmerged).2 (.inr hb)
    rw [mergeRepeats_append, hmerged]
    change mergeRepeats key merged (a :: after) = .error (key a)
    rw [mergeRepeats]
    cases hfind : merged.find? (key · == key a) with
    | none =>
      rw [List.find?_eq_none] at hfind
      exact absurd (beq_iff_eq.2 hkey) (hfind b hmem)
    | some c =>
      have hc : key c = key a := by simpa using List.find?_some hfind
      have hcb := agree_of_nodup hnodup c (List.mem_of_find?_eq_some hfind) b hmem
      obtain rfl := hcb (hc.trans hkey.symm)
      exact if_neg hba

/-- Items in another order are merged to the same items in some order. -/
theorem exists_mergeRepeats_of_perm {items other merged : List α} (hperm : items.Perm other)
    (h : mergeRepeats key [] items = .ok merged) :
    ∃ merged', mergeRepeats key [] other = .ok merged' ∧ merged.Perm merged' := by
  have hagree : Agree key other :=
    (exists_mergeRepeats_eq_ok_iff.1 ⟨merged, h⟩).subset hperm.symm.subset
  obtain ⟨merged', h'⟩ := exists_mergeRepeats_eq_ok_iff.2 hagree
  refine ⟨merged', h', ?_⟩
  have hnodup := (nodup_of_mergeRepeats_eq_ok h List.nodup_nil).of_map key
  have hnodup' := (nodup_of_mergeRepeats_eq_ok h' List.nodup_nil).of_map key
  refine (List.perm_ext_iff_of_nodup hnodup hnodup').2 fun item => ?_
  rw [mem_mergeRepeats_iff h, mem_mergeRepeats_iff h', hperm.mem_iff]

end LayeredFlags
