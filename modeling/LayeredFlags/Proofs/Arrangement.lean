import LayeredFlags.Proofs.Construction
import LayeredFlags.Proofs.Lookup
import LayeredFlags.Proofs.Repeats
/-!
# Arranging Layers

A layer set is built by arranging its layers by priority and comparing neighbours. Neighbours are
enough because layers of one priority come to stand next to each other, and the two that are named
when priorities clash are the first ones of the input because arranging them keeps their order.

## Main definitions

* `LayerSet.FirstClash`: the first two layers of the smallest priority that is repeated;
* `LayerSet.Clash`: why layers cannot make a layer set;
* `LayerSet.Arranges`: which lists of layers make a layer set, what is in it, and what is said of
  the others.

## Main results

* `LayerSet.filter_arrange`: layers of one priority keep their order;
* `LayerSet.firstClash_of_arrange`: the first clash of arranged layers is that of the layers;
* `LayerSet.arranges_ofLayers`: every list of layers makes its arrangement, or names the right
  clash.
-/

namespace LayeredFlags.LayerSet

/-- The two layers are the first ones, in the order of the layers, of the smallest priority that
more than one layer has. -/
structure FirstClash (layers : List Layer) (first second : Layer) : Prop where
  /-- No layer before the two has their priority, and no layer between them. -/
  first_two : ∃ rest,
    layers.filter (·.priority = first.priority) = first :: second :: rest
  /-- Every priority that is repeated is at least as high. -/
  least : ∀ priority : Int64, 1 < layers.countP (·.priority = priority) → first.priority ≤ priority

/-- Why the layers make no layer set. -/
inductive Clash (layers : List Layer) : FlagError → Prop where
  /-- An identifier is repeated, whatever the priorities are. -/
  | identifier {identifier : String}
      (repeated : EarliestRepeat (layers.map (·.identifier)) identifier) :
      Clash layers (.duplicateLayerIdentifier identifier)
  /-- No identifier is repeated, but a priority is. -/
  | priority {first second : Layer} (distinct : (layers.map (·.identifier)).Nodup)
      (clash : FirstClash layers first second) :
      Clash layers (.duplicatePriority first.priority first.identifier second.identifier)

/-- What comes of building a layer set from the layers. -/
structure Arranges (layers : List Layer) : Prop where
  /-- A layer set is built exactly from layers with distinct identifiers and priorities. -/
  exists_iff : (∃ layerSet, ofLayers layers = .ok layerSet) ↔
    (layers.map (·.identifier)).Nodup ∧ (layers.map (·.priority)).Nodup
  /-- It has the layers as they were given, by strictly ascending priority, and finds each by its
  identifier. -/
  built : ∀ layerSet, ofLayers layers = .ok layerSet →
    layerSet.layers.Perm layers ∧
      layerSet.layers.Pairwise (·.priority.toInt < ·.priority.toInt) ∧
      ∀ identifier layer, layerSet.find? identifier = some layer ↔
        layer ∈ layers ∧ layer.identifier = identifier
  /-- Otherwise the error names the clash. -/
  error_iff : ∀ error, ofLayers layers = .error error ↔ Clash layers error

variable {layers : List Layer} {first second : Layer}

/-! ## Layers of one priority -/

/-- Layers of one priority keep their order when layers are arranged. -/
theorem filter_arrange (layers : List Layer) (priority : Int64) :
    (arrange layers).filter (·.priority = priority) = layers.filter (·.priority = priority) := by
  -- they are in order already, so that they are found in the same order in the arrangement
  have hordered : (layers.filter (·.priority = priority)).Pairwise (inOrder · ·) := by
    refine List.pairwise_of_forall_mem_list fun a ha b hb => ?_
    have ha' : a.priority = priority := by simpa using (List.mem_filter.1 ha).2
    have hb' : b.priority = priority := by simpa using (List.mem_filter.1 hb).2
    simp [inOrder, ha', hb']
  have hsublist := (List.sublist_mergeSort inOrder_trans inOrder_total hordered
    List.filter_sublist).filter
    (·.priority = priority)
  rw [List.filter_filter] at hsublist
  simp only [Bool.and_self] at hsublist
  refine (hsublist.eq_of_length ?_).symm
  exact ((perm_arrange layers).filter _).length_eq.symm

/-- Priorities are distinct exactly when none is that of two layers. -/
theorem nodup_priorities_iff :
    (layers.map (·.priority)).Nodup ↔
      ∀ priority : Int64, layers.countP (·.priority = priority) ≤ 1 := by
  simp only [List.nodup_iff_count_le_one, List.count, List.countP_map, Function.comp_def]
  rfl

/-- The priority of a first clash is that of two layers. -/
theorem FirstClash.repeated (h : FirstClash layers first second) :
    1 < layers.countP (·.priority = first.priority) := by
  obtain ⟨rest, hrest⟩ := h.first_two
  rw [List.countP_eq_length_filter, hrest, List.length_cons, List.length_cons]
  omega

/-- There is one first clash only. -/
theorem FirstClash.unique {other other' : Layer} (h : FirstClash layers first second)
    (h' : FirstClash layers other other') : first = other ∧ second = other' := by
  have hpriority : first.priority = other.priority :=
    Int64.le_antisymm (h.least _ h'.repeated) (h'.least _ h.repeated)
  obtain ⟨rest, hrest⟩ := h.first_two
  obtain ⟨rest', hrest'⟩ := h'.first_two
  rw [hpriority, hrest'] at hrest
  obtain ⟨rfl, htail⟩ := List.cons.inj hrest
  exact ⟨rfl, (List.cons.inj htail).1.symm⟩

/-! ## Neighbours -/

/-- The first clash of neighbours is behind layers that do not clash. -/
theorem exists_of_firstClash?_eq_some (h : firstClash? layers = some (first, second)) :
    first.priority = second.priority ∧
      ∃ before after, layers = before ++ first :: second :: after ∧
        firstClash? (before ++ [first]) = none := by
  induction layers with
  | nil => cases h
  | cons a rest ih =>
    cases rest with
    | nil => cases h
    | cons b rest =>
      rw [firstClash?] at h
      split at h
      · next heq =>
        cases h
        exact ⟨heq, [], rest, rfl, rfl⟩
      · next hne =>
        obtain ⟨heq, before, after, hlayers, hnone⟩ := ih h
        refine ⟨heq, a :: before, after, by rw [hlayers]; rfl, ?_⟩
        -- the neighbour of the new head is still `b`
        cases before with
        | nil =>
          obtain rfl := (List.cons.inj hlayers).1
          simp [firstClash?, hne]
        | cons c before =>
          obtain rfl := (List.cons.inj hlayers).1
          simpa [firstClash?, hne] using hnone

/-- The first clash of arranged layers is the first clash of the layers. -/
theorem firstClash_of_arrange (h : firstClash? (arrange layers) = some (first, second)) :
    FirstClash layers first second := by
  obtain ⟨heq, before, after, hsplit, hnone⟩ := exists_of_firstClash?_eq_some h
  have hsorted := pairwise_arrange layers
  rw [hsplit, List.pairwise_append, List.pairwise_cons] at hsorted
  obtain ⟨hbefore, ⟨hbehind, -⟩, hfront⟩ := hsorted
  -- in front of the clash the priorities ascend strictly, behind it none is lower
  have hascending : (before ++ [first]).Pairwise (·.priority < ·.priority) := by
    refine ascending_of_firstClash?_eq_none ?_ hnone
    rw [List.pairwise_append]
    refine ⟨hbefore, List.pairwise_singleton _ _, fun a ha b hb => ?_⟩
    exact List.mem_singleton.1 hb ▸ hfront a ha first List.mem_cons_self
  have hlower : ∀ layer ∈ before, layer.priority < first.priority := fun layer hlayer =>
    (List.pairwise_append.1 hascending).2.2 layer hlayer first List.mem_cons_self
  refine ⟨⟨after.filter (·.priority = first.priority), ?_⟩, fun priority hrepeated => ?_⟩
  · have hnil : before.filter (·.priority = first.priority) = [] := by
      simp only [List.filter_eq_nil_iff, decide_eq_true_eq]
      exact fun layer hlayer => Int64.ne_of_lt (hlower layer hlayer)
    rw [← filter_arrange, hsplit, List.filter_append, hnil]
    simp [heq]
  · refine Int64.not_lt.1 fun hlt => ?_
    have hnone : (first :: second :: after).countP (·.priority = priority) = 0 := by
      simp only [List.countP_eq_zero, List.forall_mem_cons, decide_eq_true_eq]
      refine ⟨(Int64.ne_of_lt hlt).symm, fun h => ?_, fun layer hlayer h => ?_⟩
      · exact Int64.lt_irrefl (heq.trans h ▸ hlt)
      · exact Int64.not_lt.2 (hbehind layer (.tail _ hlayer)) (h ▸ hlt)
    have hbefore : before.countP (·.priority = priority) ≤ 1 := by
      have hnodup : (before.map (·.priority)).Nodup :=
        List.pairwise_map.2 ((List.pairwise_append.1 hascending).1.imp Int64.ne_of_lt)
      exact nodup_priorities_iff.1 hnodup priority
    rw [← (perm_arrange layers).countP_eq, hsplit, List.countP_append, hnone] at hrepeated
    omega

/-! ## Layer sets -/

/-- Layers are refused for one reason only. -/
theorem Clash.unique {error other : FlagError} (h : Clash layers error)
    (h' : Clash layers other) : error = other := by
  cases h with
  | identifier repeated =>
    cases h' with
    | identifier repeated' => rw [repeated.unique repeated']
    | priority distinct => exact absurd distinct repeated.not_nodup
  | priority distinct clash =>
    cases h' with
    | identifier repeated => exact absurd distinct repeated.not_nodup
    | priority _ clash' =>
      obtain ⟨rfl, rfl⟩ := clash.unique clash'
      rfl

/-- A layer set is built exactly from layers with distinct identifiers and priorities. -/
theorem exists_ofLayers_iff :
    (∃ layerSet, ofLayers layers = .ok layerSet) ↔
      (layers.map (·.identifier)).Nodup ∧ (layers.map (·.priority)).Nodup := by
  simp only [ofLayers_eq_ok_iff, exists_layers_perm_iff]

/-- Layers are refused for their clash. -/
theorem ofLayers_eq_error_iff {error : FlagError} :
    ofLayers layers = .error error ↔ Clash layers error := by
  have hclash : ∀ error, ofLayers layers = .error error → Clash layers error := by
    intro error h
    unfold ofLayers at h
    split at h
    · next hrepeat =>
      cases h
      exact .identifier (firstRepeat?_eq_some_iff.1 hrepeat)
    · next hrepeat =>
      split at h
      · next hclash =>
        cases h
        exact .priority (firstRepeat?_eq_none_iff.1 hrepeat) (firstClash_of_arrange hclash)
      · cases h
  refine ⟨hclash error, fun h => ?_⟩
  cases hbuilt : ofLayers layers with
  | error other => rw [h.unique (hclash other hbuilt)]
  | ok layerSet =>
    -- layers that clash are not built
    obtain ⟨hidentifiers, hpriorities⟩ := exists_ofLayers_iff.1 ⟨layerSet, hbuilt⟩
    cases h with
    | identifier repeated => exact absurd hidentifiers repeated.not_nodup
    | @priority first second _ clash =>
      exact absurd (nodup_priorities_iff.1 hpriorities first.priority) (Nat.not_le.2 clash.repeated)

/-- Layers make a layer set, arranged by priority, or name the right clash. -/
theorem arranges_ofLayers (layers : List Layer) : Arranges layers where
  exists_iff := exists_ofLayers_iff
  built layerSet hbuilt := by
    have hperm := ofLayers_eq_ok_iff.1 hbuilt
    refine ⟨hperm, layerSet.ascending.imp Int64.lt_iff_toInt_lt.1, fun identifier layer => ?_⟩
    rw [find?, find?_key_eq_some_iff layerSet.identifiers_nodup, hperm.mem_iff]
  error_iff error := ofLayers_eq_error_iff

end LayeredFlags.LayerSet
