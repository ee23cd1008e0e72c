import LayeredFlags.Proofs.Lookup
import LayeredFlags.Proofs.Resolution.Layer
import Mathlib.Data.List.Forall2
import Mathlib.Data.List.Induction
/-!
# Precedence

Of the layers that speak of a flag or a constant the highest one decides. This file states
that rule apart from the way in which layers are applied, and proves that resolution follows
it.

## Main definitions

* `assertersOf`, `settersOf`: the layers that speak of a flag and of a constant;
* `Entry.DecidedBy`: the entry that these layers leave of a definition;
* `ResolvedSetting.DecidedBy`: the setting that the last of them leaves.

## Main results

* `Entry.decidedBy_foldl_applyLayer`: the entries follow the rule after any run of layers;
* `Configuration.mem_settings_foldl_withLayer_iff`: so do the settings;
* `Registry.follows_of_resolve`: a resolved configuration follows the rule.
-/

namespace LayeredFlags

/-! ## The rule -/

/-- The layers that assert a flag, in their order. -/
def assertersOf (flag : String) (layers : List Layer) : List Layer :=
  layers.filter fun layer => flag ∈ layer.assertions.map (·.flag)

/-- The layers that set a constant, in their order. -/
def settersOf (name : String) (layers : List Layer) : List Layer :=
  layers.filter fun layer => name ∈ layer.settings.map (·.name)

/-- The entry of a flag that is asserted by the given layers, lowest priority first. The last
one decides the state, and those before it are overridden. -/
inductive Entry.DecidedBy (definition : FlagDefinition) : List Layer → Entry → Prop where
  /-- No layer asserts the flag. -/
  | byDefault : DecidedBy definition []
      { flag := definition.name
        state := definition.defaultState
        source := "default"
        overridden := [] }
  /-- Some layers assert the flag. -/
  | byLast {lower : List Layer} {top : Layer} {state : FlagState}
      (asserted : ⟨definition.name, state⟩ ∈ top.assertions) :
      DecidedBy definition (lower ++ [top])
        { flag := definition.name
          state := state
          source := top.identifier
          overridden := lower.map (·.identifier) }

/-- The setting is the one of the last layer that sets its constant. -/
def ResolvedSetting.DecidedBy (layers : List Layer) (setting : ResolvedSetting) : Prop :=
  ∃ top, (settersOf setting.name layers).getLast? = some top ∧
    setting.said ∈ top.settings ∧ setting.source = top.identifier

/-- The configuration is what the rule makes of a registry and some layers. -/
structure Configuration.Follows (registry : Registry) (layers : List Layer)
    (configuration : Configuration) : Prop where
  /-- One entry for every definition, in order, as the layers that assert its flag decide. -/
  entries : List.Forall₂
    (fun definition entry => entry.DecidedBy definition (assertersOf definition.name layers))
    registry.definitions configuration.entries
  /-- The names of the settings ascend strictly. -/
  ascending : (configuration.settings.map (·.name)).Pairwise (· < ·)
  /-- The constants with a value are those that some layer sets. -/
  mem_names_iff : ∀ name, name ∈ configuration.settings.map (·.name) ↔
    ∃ layer ∈ layers, name ∈ layer.settings.map (·.name)
  /-- Every setting is decided by the last layer that sets its constant. -/
  settings : ∀ setting ∈ configuration.settings, setting.DecidedBy layers
  /-- Every flag of the registry is found, with its state. -/
  found : ∀ flag ∈ registry.names, ∃ entry ∈ configuration.entries, entry.flag = flag ∧
    configuration.find? flag = some entry ∧ configuration.stateOf? flag = some entry.state
  /-- No other name is found. -/
  missing : ∀ flag ∉ registry.names,
    configuration.find? flag = none ∧ configuration.stateOf? flag = none

/-! ## Entries -/

/-- The asserters of a flag are the layers that assert it. -/
theorem mem_assertersOf_iff {flag : String} {layers : List Layer} {layer : Layer} :
    layer ∈ assertersOf flag layers ↔
      layer ∈ layers ∧ flag ∈ layer.assertions.map (·.flag) := by
  rw [assertersOf, List.mem_filter, decide_eq_true_eq]

/-- A flag has no asserters exactly when no layer asserts it. -/
theorem assertersOf_eq_nil_iff {flag : String} {layers : List Layer} :
    assertersOf flag layers = [] ↔ ∀ layer ∈ layers, flag ∉ layer.assertions.map (·.flag) := by
  simp only [assertersOf, List.filter_eq_nil_iff, decide_eq_true_eq]

/-- One more layer is one more asserter if it asserts the flag. -/
theorem assertersOf_concat (flag : String) (layers : List Layer) (layer : Layer) :
    assertersOf flag (layers ++ [layer]) =
      if flag ∈ layer.assertions.map (·.flag) then assertersOf flag layers ++ [layer]
      else assertersOf flag layers := by
  by_cases h : flag ∈ layer.assertions.map (·.flag) <;>
    simp only [assertersOf, List.filter_append, List.filter_singleton, h, decide_true,
      decide_false, cond_true, cond_false, if_true, if_false, List.append_nil]

namespace Entry

variable {definition : FlagDefinition} {asserters : List Layer} {entry : Entry}

/-- Without asserters an entry is the one of the definition. -/
theorem decidedBy_nil_iff : entry.DecidedBy definition [] ↔ entry = ofDefinition definition := by
  refine ⟨fun h => ?_, fun h => h ▸ .byDefault⟩
  generalize hnone : ([] : List Layer) = asserters at h
  cases h with
  | byDefault => rfl
  | byLast _ => simp at hnone

/-- With a last asserter an entry has the state and the name of that one. -/
theorem decidedBy_concat_iff {lower : List Layer} {top : Layer} :
    entry.DecidedBy definition (lower ++ [top]) ↔
      ∃ state, ⟨definition.name, state⟩ ∈ top.assertions ∧
        entry = ⟨definition.name, state, top.identifier, lower.map (·.identifier)⟩ := by
  constructor
  · intro h
    generalize hconcat : lower ++ [top] = asserters at h
    cases h with
    | byDefault => simp at hconcat
    | byLast asserted =>
      obtain ⟨rfl, hlast⟩ := List.append_inj' hconcat rfl
      obtain rfl := List.singleton_inj.1 hlast
      exact ⟨_, asserted, rfl⟩
  · rintro ⟨state, asserted, rfl⟩
    exact .byLast asserted

/-- The asserters leave one entry of a definition only. -/
theorem DecidedBy.unique {other : Entry} (h : entry.DecidedBy definition asserters)
    (h' : other.DecidedBy definition asserters) : entry = other := by
  obtain rfl | ⟨lower, top, rfl⟩ := asserters.eq_nil_or_concat'
  · exact (decidedBy_nil_iff.1 h).trans (decidedBy_nil_iff.1 h').symm
  · obtain ⟨state, hstate, rfl⟩ := decidedBy_concat_iff.1 h
    obtain ⟨state', hstate', rfl⟩ := decidedBy_concat_iff.1 h'
    rw [Layer.state_unique hstate hstate']

/-- A decided entry is an entry of the flag. -/
theorem DecidedBy.flag_eq (h : entry.DecidedBy definition asserters) :
    entry.flag = definition.name := by
  cases h <;> rfl

/-- A layer that asserts the flag overrides the last asserter before it. -/
theorem DecidedBy.assert (h : entry.DecidedBy definition asserters) {top : Layer}
    {state : FlagState} (hstate : ⟨definition.name, state⟩ ∈ top.assertions) :
    (entry.assert top.identifier state).DecidedBy definition (asserters ++ [top]) := by
  cases h with
  | byDefault => exact byLast hstate
  | @byLast lower last _ _ =>
    -- a layer is never called like the default source, so the last asserter is recorded
    have hname : last.identifier ≠ defaultSource := last.legal.2
    have hlast : DecidedBy definition ((lower ++ [last]) ++ [top]) _ := byLast hstate
    simpa [Entry.assert, hname] using hlast

/-- A layer keeps an entry decided by the asserters up to it. -/
theorem DecidedBy.applyLayer {layers : List Layer}
    (h : entry.DecidedBy definition (assertersOf definition.name layers)) (layer : Layer) :
    (entry.applyLayer layer).DecidedBy definition
      (assertersOf definition.name (layers ++ [layer])) := by
  rw [assertersOf_concat, Entry.applyLayer, h.flag_eq]
  cases hstate : layer.stateOf? definition.name with
  | none =>
    rw [if_neg (Layer.stateOf?_eq_none_iff.1 hstate)]
    exact h
  | some state =>
    have hmem := Layer.stateOf?_eq_some_iff.1 hstate
    rw [if_pos (List.mem_map.2 ⟨_, hmem, rfl⟩)]
    exact h.assert hmem

/-- The entry of a definition is decided by the asserters among the layers applied to it. -/
theorem decidedBy_foldl_applyLayer (definition : FlagDefinition) (layers : List Layer) :
    (layers.foldl (fun entry layer => entry.applyLayer layer)
      (ofDefinition definition)).DecidedBy definition (assertersOf definition.name layers) := by
  -- induction from the last layer on, because that one decides
  induction layers using List.reverseRecOn with
  | nil => exact .byDefault
  | append_singleton layers layer ih =>
    rw [List.foldl_concat]
    exact ih.applyLayer layer

end Entry

namespace Configuration

/-- Layers change each entry on its own. -/
theorem entries_foldl_withLayer (configuration : Configuration) (layers : List Layer) :
    (layers.foldl withLayer configuration).entries =
      configuration.entries.map fun entry =>
        layers.foldl (fun entry layer => entry.applyLayer layer) entry := by
  induction layers generalizing configuration with
  | nil => simp
  | cons layer rest ih =>
    simp only [List.foldl_cons, ih, entries_withLayer, List.map_map]
    rfl

/-! ## Settings -/

/-- A layer that sets the constant is its last setter, and any other layer changes nothing. -/
theorem getLast?_settersOf_concat (name : String) (layers : List Layer) (layer : Layer) :
    (settersOf name (layers ++ [layer])).getLast? =
      if name ∈ layer.settings.map (·.name) then some layer
      else (settersOf name layers).getLast? := by
  by_cases h : name ∈ layer.settings.map (·.name) <;>
    simp only [settersOf, List.filter_append, List.filter_singleton, h, decide_true,
      decide_false, cond_true, cond_false, if_true, if_false, List.append_nil,
      List.getLast?_concat]

/-- After a run of layers a setting is decided by the last of them that sets its constant, or
left from before if none does. -/
theorem mem_settings_foldl_withLayer_iff (configuration : Configuration) (layers : List Layer)
    {setting : ResolvedSetting} :
    setting ∈ (layers.foldl withLayer configuration).settings ↔
      setting.DecidedBy layers ∨
        setting ∈ configuration.settings ∧
          (settersOf setting.name layers).getLast? = none := by
  induction layers using List.reverseRecOn with
  | nil => simp [ResolvedSetting.DecidedBy, settersOf]
  | append_singleton layers layer ih =>
    rw [List.foldl_concat, mem_settings_withLayer_iff, ih]
    simp only [ResolvedSetting.DecidedBy, getLast?_settersOf_concat]
    -- if the last layer sets the constant then nothing before it counts, else it says nothing
    by_cases hname : setting.name ∈ layer.settings.map (·.name)
    · simp only [hname, not_true_eq_false, and_false, or_false, if_true, Option.some.injEq,
        exists_eq_left', reduceCtorEq]
    · have hsaid : setting.said ∉ layer.settings := fun hmem =>
        hname (List.mem_map.2 ⟨setting.said, hmem, rfl⟩)
      simp only [hname, hsaid, false_and, false_or, if_false, not_false_eq_true, and_true]

/-- After all layers the settings are those that the layers decide. -/
theorem mem_settings_foldl_defaults_iff (registry : Registry) (layers : List Layer)
    {setting : ResolvedSetting} :
    setting ∈ (layers.foldl withLayer (defaults registry)).settings ↔
      setting.DecidedBy layers := by
  rw [mem_settings_foldl_withLayer_iff]
  simp [defaults]

/-- A constant has a value exactly when some layer sets it. -/
theorem exists_decidedBy_iff {layers : List Layer} {name : String} :
    (∃ setting : ResolvedSetting, setting.DecidedBy layers ∧ setting.name = name) ↔
      ∃ layer ∈ layers, name ∈ layer.settings.map (·.name) := by
  constructor
  · rintro ⟨setting, ⟨top, htop, hsaid, -⟩, rfl⟩
    have hmem : top ∈ settersOf setting.name layers := List.mem_of_getLast? htop
    exact ⟨top, (List.mem_filter.1 hmem).1, List.mem_map.2 ⟨_, hsaid, rfl⟩⟩
  · rintro ⟨layer, hlayer, hname⟩
    -- there is a last setter as soon as there is one at all
    have hmem : layer ∈ settersOf name layers :=
      List.mem_filter.2 ⟨hlayer, by simpa using hname⟩
    obtain ⟨top, htop⟩ : ∃ top, (settersOf name layers).getLast? = some top :=
      ⟨_, List.getLast?_eq_some_getLast (List.ne_nil_of_mem hmem)⟩
    have hsets := (List.mem_filter.1 (List.mem_of_getLast? htop)).2
    obtain ⟨setting, hsetting, rfl⟩ := List.mem_map.1 (of_decide_eq_true hsets)
    exact ⟨⟨setting.name, setting.value, top.identifier⟩, ⟨top, htop, hsetting, rfl⟩, rfl⟩

end Configuration

/-! ## Resolution -/

/-- The configuration that the layers make of the defaults follows the rule. -/
theorem Configuration.follows_foldl_withLayer (registry : Registry) (layers : List Layer) :
    (layers.foldl withLayer (defaults registry)).Follows registry layers := by
  set result := layers.foldl withLayer (defaults registry) with hresult
  -- every entry is its definition under all layers, and every setting has its last setter
  have hentries : result.entries = registry.definitions.map fun definition =>
      layers.foldl (fun entry layer => entry.applyLayer layer)
        (Entry.ofDefinition definition) := by
    rw [hresult, entries_foldl_withLayer, defaults, List.map_map]
    rfl
  have hsettings : ∀ setting, setting ∈ result.settings ↔ setting.DecidedBy layers :=
    fun setting => mem_settings_foldl_defaults_iff registry layers
  have hforall : List.Forall₂ (fun definition entry =>
      entry.DecidedBy definition (assertersOf definition.name layers))
      registry.definitions result.entries := by
    rw [hentries, List.forall₂_map_right_iff, List.forall₂_same]
    intro definition _
    exact Entry.decidedBy_foldl_applyLayer definition layers
  have hflags : result.flags = registry.names := by
    rw [hresult, flags_foldl_withLayer, flags_defaults]
  refine
    { entries := hforall
      ascending := List.pairwise_map.2 result.settings_ascending
      mem_names_iff := fun name => ?_
      settings := fun setting => (hsettings setting).1
      found := fun flag hflag => ?_
      missing := fun flag hflag => ?_ }
  · simp only [List.mem_map, hsettings]
    rw [exists_decidedBy_iff]
    simp only [List.mem_map]
  · obtain ⟨entry, hmem, hname⟩ := List.mem_map.1 (hflags ▸ hflag : flag ∈ result.flags)
    have hfind := find?_eq_some_iff.2 ⟨hmem, hname⟩
    exact ⟨entry, hmem, hname, hfind, by rw [stateOf?, hfind]; rfl⟩
  · have hfind : result.find? flag = none := find?_eq_none_iff.2 (hflags ▸ hflag)
    exact ⟨hfind, by rw [stateOf?, hfind]; rfl⟩

/-- A resolved configuration gives every flag and every constant what the last layer that
speaks of it says. -/
theorem Registry.follows_of_resolve {registry : Registry} {layerSet : LayerSet}
    {configuration : Configuration} (h : registry.resolve layerSet = .ok configuration) :
    configuration.Follows registry layerSet.layers := by
  obtain ⟨-, rfl⟩ := resolve_eq_ok_iff.1 h
  exact Configuration.follows_foldl_withLayer registry layerSet.layers

/-- The entries of a resolved configuration are those that the layers decide. -/
theorem Registry.entries_of_resolve {registry : Registry} {layerSet : LayerSet}
    {configuration : Configuration} (h : registry.resolve layerSet = .ok configuration) :
    List.Forall₂
      (fun definition entry =>
        entry.DecidedBy definition (assertersOf definition.name layerSet.layers))
      registry.definitions configuration.entries := by
  obtain ⟨-, rfl⟩ := resolve_eq_ok_iff.1 h
  exact (Configuration.follows_foldl_withLayer registry layerSet.layers).entries

/-- The settings of a resolved configuration are those that the layers decide. -/
theorem Registry.mem_settings_of_resolve {registry : Registry} {layerSet : LayerSet}
    {configuration : Configuration} (h : registry.resolve layerSet = .ok configuration)
    {setting : ResolvedSetting} :
    setting ∈ configuration.settings ↔ setting.DecidedBy layerSet.layers := by
  obtain ⟨-, rfl⟩ := resolve_eq_ok_iff.1 h
  exact Configuration.mem_settings_foldl_defaults_iff registry layerSet.layers

/-- Every setting of a resolved configuration is given by some layer. -/
theorem Registry.exists_setting_of_resolve {registry : Registry} {layerSet : LayerSet}
    {configuration : Configuration} (h : registry.resolve layerSet = .ok configuration)
    {setting : ResolvedSetting} (hmem : setting ∈ configuration.settings) :
    ∃ layer ∈ layerSet.layers, setting.said ∈ layer.settings := by
  obtain ⟨top, htop, hsaid, -⟩ := (mem_settings_of_resolve h).1 hmem
  exact ⟨top, (List.mem_filter.1 (List.mem_of_getLast? htop)).1, hsaid⟩

/-- No constant of a resolved configuration is a flag of the registry. -/
theorem Registry.not_mem_names_of_resolve {registry : Registry} {layerSet : LayerSet}
    {configuration : Configuration} (h : registry.resolve layerSet = .ok configuration)
    {setting : ResolvedSetting} (hmem : setting ∈ configuration.settings) :
    setting.name ∉ registry.names := by
  obtain ⟨layer, hlayer, hsaid⟩ := exists_setting_of_resolve h hmem
  exact ((resolve_eq_ok_iff.1 h).1 layer hlayer).noFlag _ hsaid

/-- Two flags without constraints. -/
def traceAndLog : Registry :=
  { definitions := [⟨"TRACE", .disabled, "", []⟩, ⟨"LOG", .enabled, "", []⟩]
    names_nodup := by decide
    targets_mem := by decide }

/-- A layer that traces, and one above it that does not. -/
def tracedThenQuiet : LayerSet :=
  { layers :=
      [ { identifier := "base", priority := 0, assertions := [⟨"TRACE", .enabled⟩]
          settings := [⟨"LEVEL", "1"⟩], legal := by decide, assertions_nodup := by decide
          settings_nodup := by decide },
        { identifier := "quiet", priority := 10, assertions := [⟨"TRACE", .disabled⟩]
          settings := [⟨"LEVEL", "0"⟩], legal := by decide, assertions_nodup := by decide
          settings_nodup := by decide } ]
    identifiers_nodup := by decide
    ascending := by decide }

/-- The quiet layer decides, and the layer below it is overridden. -/
theorem follows_tracedThenQuiet : ∃ configuration,
    traceAndLog.resolve tracedThenQuiet = .ok configuration ∧
      configuration.entries =
        [⟨"TRACE", .disabled, "quiet", ["base"]⟩, ⟨"LOG", .enabled, "default", []⟩] ∧
      configuration.settings = [⟨"LEVEL", "0", "quiet"⟩] ∧
      configuration.Follows traceAndLog tracedThenQuiet.layers :=
  ⟨_, rfl, by decide, by decide, Registry.follows_of_resolve rfl⟩

end LayeredFlags
