import LayeredFlags.Proofs.Construction
import LayeredFlags.Proofs.Resolution.Precedence
import LayeredFlags.Proofs.Validation.Locality
/-!
# Adding a Layer

A layer that is added to a layer set may come anywhere in the order of priorities. It changes
the flags that it asserts and the constants that it sets, and of these it decides only what no
layer above it does. Everything else stays as it was, and so do the violations between flags
that the layer does not assert.

## Main definitions

* `Layer.Outranked`: a layer of higher priority has some property;
* `Layer.Placed`: the layers below and above the place of a layer;
* `Entry.ChangedBy`: what a layer makes of the entry of one flag;
* `Configuration.ExtendedBy`: what it makes of a configuration.

## Main results

* `LayerSet.exists_placed`: an added layer has a place, and the other layers keep theirs;
* `Layer.Placed.changedBy`: what becomes of an entry;
* `Layer.Placed.decidedBy_iff_of_kept`, `Layer.Placed.decidedBy_iff_of_top`: what becomes of a
  setting;
* `Registry.extendedBy_of_resolve`: what is resolved with the layer, compared with what is
  resolved without it.
-/

namespace LayeredFlags

/-! ## What a layer may change -/

/-- Some of the given layers has a higher priority than the layer, and the property. -/
def Layer.Outranked (layer : Layer) (layers : List Layer) (property : Layer → Prop) : Prop :=
  ∃ other ∈ layers, layer.priority < other.priority ∧ property other

/-- What an entry becomes when a layer is added to others. -/
inductive Entry.ChangedBy (layer : Layer) (layers : List Layer) : Entry → Entry → Prop where
  /-- The layer does not assert the flag. -/
  | unasserted {entry : Entry} (h : entry.flag ∉ layer.assertions.map (·.flag)) :
      ChangedBy layer layers entry entry
  /-- A layer of higher priority asserts the flag as well: the layer is overridden, after the
  overridden layers of lower priority and before those of higher priority. -/
  | outranked {entry : Entry} {lower higher : List Layer}
      (asserted : entry.flag ∈ layer.assertions.map (·.flag))
      (outranked : layer.Outranked layers (entry.flag ∈ ·.assertions.map (·.flag)))
      (overridden : entry.overridden =
        lower.map (·.identifier) ++ higher.map (·.identifier))
      (lower_lt : ∀ other ∈ lower, other ∈ layers ∧ other.priority < layer.priority)
      (lt_higher : ∀ other ∈ higher, other ∈ layers ∧ layer.priority < other.priority) :
      ChangedBy layer layers entry
        { entry with
          overridden := lower.map (·.identifier) ++ layer.identifier :: higher.map (·.identifier) }
  /-- The layer decides over layers of lower priority, the last of which decided before. -/
  | overrides {entry : Entry} {state : FlagState}
      (asserted : ⟨entry.flag, state⟩ ∈ layer.assertions)
      (top : ¬ layer.Outranked layers (entry.flag ∈ ·.assertions.map (·.flag)))
      (others : ∃ other ∈ layers, entry.flag ∈ other.assertions.map (·.flag)) :
      ChangedBy layer layers entry
        ⟨entry.flag, state, layer.identifier, entry.overridden ++ [entry.source]⟩
  /-- The layer is the only one to assert the flag. -/
  | alone {entry : Entry} {state : FlagState}
      (asserted : ⟨entry.flag, state⟩ ∈ layer.assertions)
      (alone : ∀ other ∈ layers, entry.flag ∉ other.assertions.map (·.flag)) :
      ChangedBy layer layers entry ⟨entry.flag, state, layer.identifier, []⟩

/-- What a configuration becomes when a layer is added to others. -/
structure Configuration.ExtendedBy (layer : Layer) (layers : List Layer)
    (before after : Configuration) : Prop where
  /-- Every flag keeps its place, and its entry is changed as the layers demand. -/
  entries : List.Forall₂ (Entry.ChangedBy layer layers) before.entries after.entries
  /-- A setting stays as it was if the layer does not set its constant, or if a layer of higher
  priority does. -/
  settings_kept : ∀ setting : ResolvedSetting,
    setting.name ∉ layer.settings.map (·.name) ∨
        layer.Outranked layers (setting.name ∈ ·.settings.map (·.name)) →
      (setting ∈ after.settings ↔ setting ∈ before.settings)
  /-- Any other constant that the layer sets has the value and the source that the layer gives. -/
  settings_given : ∀ given ∈ layer.settings,
    ¬ layer.Outranked layers (given.name ∈ ·.settings.map (·.name)) →
      ∀ setting : ResolvedSetting, setting.name = given.name →
        (setting ∈ after.settings ↔ setting = ⟨given.name, given.value, layer.identifier⟩)
  /-- Between flags that the layer does not assert there are the same violations. -/
  violations : ∀ (registry : Registry) (violation : Violation),
    violation.flag ∉ layer.assertions.map (·.flag) →
    violation.otherFlag ∉ layer.assertions.map (·.flag) →
      (violation ∈ before.violations registry ↔ violation ∈ after.violations registry)

/-! ## The place of a layer -/

/-- The place of a layer among others is between those of lower and those of higher priority. -/
structure Layer.Placed (layer : Layer) (lower higher : List Layer) : Prop where
  /-- The layers below have lower priorities. -/
  lower_lt : ∀ other ∈ lower, other.priority < layer.priority
  /-- The layers above have higher priorities. -/
  lt_higher : ∀ other ∈ higher, layer.priority < other.priority

/-- An added layer has a place among the layers of a set, which keep their order. -/
theorem LayerSet.exists_placed {layerSet extended : LayerSet} {layer : Layer}
    (h : extended.layers.Perm (layer :: layerSet.layers)) :
    ∃ lower higher, layerSet.layers = lower ++ higher ∧
      extended.layers = lower ++ layer :: higher ∧ layer.Placed lower higher := by
  obtain ⟨lower, higher, heq⟩ := List.append_of_mem (h.mem_iff.2 List.mem_cons_self)
  have hascending := extended.ascending
  rw [heq] at h hascending
  obtain ⟨-, hmiddle, hbelow⟩ := List.pairwise_append.1 hascending
  obtain ⟨habove, -⟩ := List.pairwise_cons.1 hmiddle
  -- without the layer both lists have the same layers, each in ascending order
  have hperm : layerSet.layers.Perm (lower ++ higher) :=
    (List.Perm.cons_inv (List.perm_middle.symm.trans h)).symm
  have hrest : (lower ++ higher).Pairwise (·.priority < ·.priority) :=
    hascending.sublist ((List.sublist_cons_self layer higher).append_left lower)
  refine ⟨lower, higher, ?_, heq, fun other hmem => hbelow other hmem layer List.mem_cons_self,
    habove⟩
  refine List.Perm.eq_of_pairwise (fun first second _ _ hlt hgt => ?_) layerSet.ascending hrest
    hperm
  exact absurd (Int64.lt_trans hlt hgt) Int64.lt_irrefl

/-! ## Entries and settings -/

/-- What is chosen of a list is chosen before an item and behind it, and the item between them if
it is one. -/
theorem filter_append_cons {α : Type} (chosen : α → Prop) [DecidablePred chosen]
    (lower higher : List α) (item : α) :
    (lower ++ item :: higher).filter (chosen ·) =
      lower.filter (chosen ·) ++ ((if chosen item then [item] else []) ++
        higher.filter (chosen ·)) := by
  by_cases h : chosen item <;> simp [List.filter_append, h]

/-- The asserters around the place of a layer, with the layer between them if it is one. -/
theorem assertersOf_append_cons (flag : String) (lower higher : List Layer) (layer : Layer) :
    assertersOf flag (lower ++ layer :: higher) =
      assertersOf flag lower ++
        ((if flag ∈ layer.assertions.map (·.flag) then [layer] else []) ++
          assertersOf flag higher) := by
  unfold assertersOf
  exact filter_append_cons _ lower higher layer

/-- The setters around the place of a layer, with the layer between them if it is one. -/
theorem settersOf_append_cons (name : String) (lower higher : List Layer) (layer : Layer) :
    settersOf name (lower ++ layer :: higher) =
      settersOf name lower ++
        ((if name ∈ layer.settings.map (·.name) then [layer] else []) ++
          settersOf name higher) := by
  unfold settersOf
  exact filter_append_cons _ lower higher layer

namespace Layer.Placed

variable {layer : Layer} {lower higher : List Layer}

/-- The layers that outrank a layer are those above its place. -/
theorem outranked_iff (h : layer.Placed lower higher) {property : Layer → Prop} :
    layer.Outranked (lower ++ higher) property ↔ ∃ other ∈ higher, property other := by
  constructor
  · rintro ⟨other, hmem, hlt, hproperty⟩
    rcases List.mem_append.1 hmem with hlower | hhigher
    · exact absurd (Int64.lt_trans hlt (h.lower_lt other hlower)) Int64.lt_irrefl
    · exact ⟨other, hhigher, hproperty⟩
  · rintro ⟨other, hmem, hproperty⟩
    exact ⟨other, List.mem_append_right _ hmem, h.lt_higher other hmem, hproperty⟩

variable {definition : FlagDefinition} {before after : Entry}

/-- A layer with an asserter above its place is overridden, and decides nothing. -/
theorem changedBy_of_outranked (h : layer.Placed lower higher) {middle : List Layer} {top : Layer}
    (hasserts : definition.name ∈ layer.assertions.map (·.flag))
    (hhigher : assertersOf definition.name higher = middle ++ [top])
    (hbefore : before.DecidedBy definition
      (assertersOf definition.name lower ++ assertersOf definition.name higher))
    (hafter : after.DecidedBy definition
      (assertersOf definition.name lower ++ layer :: assertersOf definition.name higher)) :
    before.ChangedBy layer (lower ++ higher) after := by
  rw [hhigher, ← List.append_assoc] at hbefore
  rw [hhigher, ← List.cons_append, ← List.append_assoc] at hafter
  -- the same layer decides with and without the new one
  obtain ⟨state, hstate, rfl⟩ := Entry.decidedBy_concat_iff.1 hbefore
  obtain ⟨state', hstate', rfl⟩ := Entry.decidedBy_concat_iff.1 hafter
  obtain rfl := state_unique hstate hstate'
  have htop : top ∈ assertersOf definition.name higher := by simp [hhigher]
  have houtranked : layer.Outranked (lower ++ higher)
      (definition.name ∈ ·.assertions.map (·.flag)) :=
    h.outranked_iff.2 ⟨top, mem_assertersOf_iff.1 htop⟩
  rw [List.map_append, List.map_append, List.map_cons]
  refine .outranked hasserts houtranked rfl (fun other hmem => ?_) (fun other hmem => ?_)
  · have hlower := (mem_assertersOf_iff.1 hmem).1
    exact ⟨List.mem_append_left _ hlower, h.lower_lt other hlower⟩
  · have hmiddle : other ∈ assertersOf definition.name higher := by simp [hhigher, hmem]
    have hother := (mem_assertersOf_iff.1 hmiddle).1
    exact ⟨List.mem_append_right _ hother, h.lt_higher other hother⟩

/-- A layer without an asserter above its place decides, and overrides the last one below. -/
theorem changedBy_of_top (h : layer.Placed lower higher)
    (hhigher : assertersOf definition.name higher = [])
    (hbefore : before.DecidedBy definition (assertersOf definition.name lower))
    (hafter : after.DecidedBy definition (assertersOf definition.name lower ++ [layer])) :
    before.ChangedBy layer (lower ++ higher) after := by
  have hnone := assertersOf_eq_nil_iff.1 hhigher
  have htop : ¬ layer.Outranked (lower ++ higher)
      (definition.name ∈ ·.assertions.map (·.flag)) := by
    rw [h.outranked_iff]
    rintro ⟨other, hmem, hname⟩
    exact hnone other hmem hname
  obtain ⟨state, hstate, rfl⟩ := Entry.decidedBy_concat_iff.1 hafter
  obtain hlower | ⟨rest, last, hlower⟩ := (assertersOf definition.name lower).eq_nil_or_concat'
  · rw [hlower] at hbefore ⊢
    obtain rfl := Entry.decidedBy_nil_iff.1 hbefore
    refine .alone hstate fun other hmem => ?_
    rcases List.mem_append.1 hmem with hbelow | habove
    · exact assertersOf_eq_nil_iff.1 hlower other hbelow
    · exact hnone other habove
  · have hlast : last ∈ assertersOf definition.name lower := by simp [hlower]
    rw [hlower] at hbefore ⊢
    obtain ⟨state', -, rfl⟩ := Entry.decidedBy_concat_iff.1 hbefore
    obtain ⟨hmem, hname⟩ := mem_assertersOf_iff.1 hlast
    rw [List.map_append]
    exact .overrides hstate htop ⟨last, List.mem_append_left _ hmem, hname⟩

/-- The entry of a definition changes as a layer at the place demands. -/
theorem changedBy (h : layer.Placed lower higher)
    (hbefore : before.DecidedBy definition (assertersOf definition.name (lower ++ higher)))
    (hafter : after.DecidedBy definition
      (assertersOf definition.name (lower ++ layer :: higher))) :
    before.ChangedBy layer (lower ++ higher) after := by
  have hsplit : assertersOf definition.name (lower ++ higher) =
      assertersOf definition.name lower ++ assertersOf definition.name higher :=
    List.filter_append ..
  rw [hsplit] at hbefore
  rw [assertersOf_append_cons] at hafter
  -- the layer asserts the flag or not, and if it does, an asserter stands above it or not
  by_cases hasserts : definition.name ∈ layer.assertions.map (·.flag)
  · rw [if_pos hasserts, List.singleton_append] at hafter
    obtain hnone | ⟨middle, top, hhigher⟩ :=
      (assertersOf definition.name higher).eq_nil_or_concat'
    · rw [hnone, List.append_nil] at hbefore
      rw [hnone] at hafter
      exact h.changedBy_of_top hnone hbefore hafter
    · exact h.changedBy_of_outranked hasserts hhigher hbefore hafter
  · rw [if_neg hasserts, List.nil_append] at hafter
    have hflag := hafter.flag_eq
    rw [hbefore.unique hafter]
    exact .unasserted (hflag ▸ hasserts)

/-! ### Settings -/

/-- A layer that does not set the constant, or is not the last to do so, changes nothing. -/
theorem decidedBy_iff_of_kept (h : layer.Placed lower higher) {setting : ResolvedSetting}
    (hkept : setting.name ∉ layer.settings.map (·.name) ∨
      layer.Outranked (lower ++ higher) (setting.name ∈ ·.settings.map (·.name))) :
    setting.DecidedBy (lower ++ layer :: higher) ↔ setting.DecidedBy (lower ++ higher) := by
  have hsplit : settersOf setting.name (lower ++ higher) =
      settersOf setting.name lower ++ settersOf setting.name higher := List.filter_append ..
  -- the last setter is the same with and without the layer
  have hlast : (settersOf setting.name (lower ++ layer :: higher)).getLast? =
      (settersOf setting.name (lower ++ higher)).getLast? := by
    rw [settersOf_append_cons, hsplit]
    rcases hkept with hsets | houtranked
    · rw [if_neg hsets, List.nil_append]
    · obtain ⟨other, hmem, hname⟩ := h.outranked_iff.1 houtranked
      have hne : settersOf setting.name higher ≠ [] :=
        List.ne_nil_of_mem (List.mem_filter.2 ⟨hmem, by simpa using hname⟩)
      rw [List.getLast?_append_of_ne_nil _ hne, ← List.append_assoc,
        List.getLast?_append_of_ne_nil _ hne]
  rw [ResolvedSetting.DecidedBy, ResolvedSetting.DecidedBy, hlast]

/-- A layer that is the last to set the constant decides it. -/
theorem decidedBy_iff_of_top (h : layer.Placed lower higher) {given : Setting}
    (hgiven : given ∈ layer.settings)
    (htop : ¬ layer.Outranked (lower ++ higher) (given.name ∈ ·.settings.map (·.name)))
    {setting : ResolvedSetting} (hname : setting.name = given.name) :
    setting.DecidedBy (lower ++ layer :: higher) ↔
      setting = given.resolved layer.identifier := by
  have hsets : setting.name ∈ layer.settings.map (·.name) :=
    hname ▸ List.mem_map_of_mem hgiven
  have hnone : settersOf setting.name higher = [] := by
    refine List.filter_eq_nil_iff.2 fun other hmem hother => htop ?_
    exact h.outranked_iff.2 ⟨other, hmem, hname ▸ of_decide_eq_true hother⟩
  have hlast : (settersOf setting.name (lower ++ layer :: higher)).getLast? = some layer := by
    rw [settersOf_append_cons, if_pos hsets, hnone, List.append_nil, List.getLast?_concat]
  rw [ResolvedSetting.eq_resolved_iff, ResolvedSetting.DecidedBy, hlast]
  simp only [Option.some.injEq, exists_eq_left']
  -- the layer sets the constant once
  refine and_congr_left fun _ => ⟨fun hsaid => ?_, fun hsaid => hsaid ▸ hgiven⟩
  exact List.inj_on_of_nodup_map layer.settings_nodup hsaid hgiven hname

end Layer.Placed

/-! ## Configurations -/

namespace Entry

variable {layer : Layer} {layers : List Layer} {before after : Entry}

/-- A change leaves the flag as it is. -/
theorem ChangedBy.flag_eq (h : before.ChangedBy layer layers after) : after.flag = before.flag := by
  cases h <;> rfl

/-- The entry of a flag that the layer does not assert is left as it is. -/
theorem ChangedBy.eq_of_not_mem (h : before.ChangedBy layer layers after)
    (hflag : before.flag ∉ layer.assertions.map (·.flag)) : after = before := by
  cases h with
  | unasserted => rfl
  | outranked asserted => exact absurd asserted hflag
  | overrides asserted => exact absurd (List.mem_map_of_mem asserted) hflag
  | alone asserted => exact absurd (List.mem_map_of_mem asserted) hflag

/-- In two lists of changed entries the same is found for a flag that the layer does not
assert. -/
theorem find?_eq_of_changedBy {entries entries' : List Entry}
    (h : List.Forall₂ (ChangedBy layer layers) entries entries') {flag : String}
    (hflag : flag ∉ layer.assertions.map (·.flag)) :
    entries.find? (·.flag == flag) = entries'.find? (·.flag == flag) := by
  induction h with
  | nil => rfl
  | @cons first first' _ _ hfirst _ ih =>
    by_cases heq : first.flag = flag
    · rw [hfirst.eq_of_not_mem (heq ▸ hflag), List.find?_cons_of_pos (by simpa using heq),
        List.find?_cons_of_pos (by simpa using heq)]
    · have heq' : first'.flag ≠ flag := hfirst.flag_eq ▸ heq
      rw [List.find?_cons_of_neg (by simpa using heq), List.find?_cons_of_neg (by simpa using heq'),
        ih]

end Entry

/-- What is resolved with an added layer, compared with what is resolved without it. A layer
whose identifier and priority are new can always be added, and it does not matter in which order
the layers are given then. -/
theorem Registry.extendedBy_of_resolve {registry : Registry} {layerSet : LayerSet} {layer : Layer}
    (hidentifier : layer.identifier ∉ layerSet.layers.map (·.identifier))
    (hpriority : layer.priority ∉ layerSet.layers.map (·.priority)) :
    (∃ extended, LayerSet.ofLayers (layer :: layerSet.layers) = .ok extended) ∧
      ∀ layers extended, layers.Perm (layer :: layerSet.layers) →
        LayerSet.ofLayers layers = .ok extended →
          ∀ before after, registry.resolve layerSet = .ok before →
            registry.resolve extended = .ok after →
              before.ExtendedBy layer layerSet.layers after := by
  constructor
  · -- distinct identifiers and priorities are all that a layer set demands
    obtain ⟨extended, hperm⟩ := (@LayerSet.exists_layers_perm_iff (layer :: layerSet.layers)).2
      ⟨List.nodup_cons.2 ⟨hidentifier, layerSet.identifiers_nodup⟩,
        List.nodup_cons.2 ⟨hpriority, layerSet.priorities_nodup⟩⟩
    exact ⟨extended, LayerSet.ofLayers_eq_ok_iff.2 hperm⟩
  · intro layers extended hperm hextended before after hbefore hafter
    obtain ⟨lower, higher, hlayers, hlayers', hplaced⟩ :=
      LayerSet.exists_placed ((LayerSet.ofLayers_eq_ok_iff.1 hextended).trans hperm)
    have hdecided := entries_of_resolve hbefore
    have hdecided' := entries_of_resolve hafter
    -- from here on both sets are the layers below and above the place of the new one
    have hsettings := @mem_settings_of_resolve registry layerSet before hbefore
    have hsettings' := @mem_settings_of_resolve registry extended after hafter
    rw [hlayers] at hdecided hsettings ⊢
    rw [hlayers'] at hdecided' hsettings'
    -- entry by entry, both are decided for the same definition
    have hentries : List.Forall₂ (Entry.ChangedBy layer (lower ++ higher)) before.entries
        after.entries := by
      refine forall₂_comp ?_ (List.Forall₂.flip hdecided) hdecided'
      intro entry definition entry' hentry hentry'
      exact hplaced.changedBy hentry hentry'
    refine
      { entries := hentries
        settings_kept := fun setting hkept => ?_
        settings_given := fun given hgiven htop setting hname => ?_
        violations := fun judge violation hflag hother => ?_ }
    · rw [hsettings, hsettings']
      exact hplaced.decidedBy_iff_of_kept hkept
    · rw [hsettings']
      exact hplaced.decidedBy_iff_of_top hgiven htop hname
    · have hagree : ∀ flag, flag ∉ layer.assertions.map (·.flag) →
          before.find? flag = after.find? flag :=
        fun flag => Entry.find?_eq_of_changedBy hentries
      have hwithin : violation.Within (· ∉ layer.assertions.map (·.flag)) := ⟨hflag, hother⟩
      have hmem : ∀ violations : List Violation,
          violation ∈ violations.filter (·.Within (· ∉ layer.assertions.map (·.flag))) ↔
            violation ∈ violations :=
        fun _ => List.mem_filter.trans (and_iff_left (decide_eq_true hwithin))
      rw [← hmem (before.violations judge), Configuration.filter_violations_congr hagree judge,
        hmem]

/-- A layer with a priority between the two of `tracedThenQuiet`. -/
def louderLayer : Layer :=
  { identifier := "louder", priority := 5
    assertions := [⟨"TRACE", .enabled⟩, ⟨"LOG", .disabled⟩]
    settings := [⟨"LEVEL", "2"⟩, ⟨"DEPTH", "3"⟩]
    legal := by decide, assertions_nodup := by decide, settings_nodup := by decide }

/-- The two layers with the new one between them. -/
def tracedLouderQuiet : LayerSet :=
  { layers := tracedThenQuiet.layers.insertIdx 1 louderLayer
    identifiers_nodup := by decide
    ascending := by decide }

/-- The new layer is overridden where the quiet layer speaks, and decides the rest. -/
theorem extendedBy_louderLayer : ∃ before after,
    LayerSet.ofLayers (louderLayer :: tracedThenQuiet.layers) = .ok tracedLouderQuiet ∧
      traceAndLog.resolve tracedThenQuiet = .ok before ∧
      traceAndLog.resolve tracedLouderQuiet = .ok after ∧
      after.entries =
        [⟨"TRACE", .disabled, "quiet", ["base", "louder"]⟩, ⟨"LOG", .disabled, "louder", []⟩] ∧
      after.settings = [⟨"DEPTH", "3", "louder"⟩, ⟨"LEVEL", "0", "quiet"⟩] ∧
      before.ExtendedBy louderLayer tracedThenQuiet.layers after := by
  obtain ⟨-, hextended⟩ := @Registry.extendedBy_of_resolve traceAndLog tracedThenQuiet louderLayer
    (by decide) (by decide)
  have hlayers : LayerSet.ofLayers (louderLayer :: tracedThenQuiet.layers) =
      .ok tracedLouderQuiet := LayerSet.ofLayers_eq_ok_iff.2 (.swap _ _ _)
  exact ⟨_, _, hlayers, rfl, rfl, by decide, by decide,
    hextended _ _ (.refl _) hlayers _ _ rfl rfl⟩

end LayeredFlags
