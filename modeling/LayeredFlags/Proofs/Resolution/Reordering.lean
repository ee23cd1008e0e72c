import LayeredFlags.Output.Rendering
import LayeredFlags.Output.Report
import LayeredFlags.Proofs.Construction
import LayeredFlags.Proofs.Lookup
import LayeredFlags.Proofs.Repeats
import LayeredFlags.Proofs.Resolution.Precedence
import LayeredFlags.Proofs.Validation.Gate
import Mathlib.Data.List.Perm.Basic
import Mathlib.Data.List.Sort
/-!
# Only Priorities Order Layers

Layers are described in some order, and each of them says what it says in some order. Repeats
are merged, the layers are arranged, and what they say is applied one thing after the other, so
that two descriptions of the same layers go through different states. They still come to the
same configuration, because priorities and the names within a layer are unique.

## Main definitions

* `LayerDescription`: what a layer is built from;
* `LayerDescription.ReorderedAll`: two lists describe the same layers in different orders;
* `Registry.resolveDescribed`: build layers, gather them in a set and resolve;
* `SameResult`: two resolutions come to the same.

## Main results

* `LayerDescription.Reordered.exists_build`: the layers that are built say the same;
* `Configuration.withLayer_eq_of_reordered`: applying them makes the same configuration;
* `LayerSet.exists_ofLayers_of_reordered`: the sets hold them in the same order;
* `Registry.sameResult_resolveDescribed`: the resolutions come to the same.
-/

namespace LayeredFlags

/-- What a layer is built from. -/
structure LayerDescription where
  /-- The identifier. -/
  identifier : String
  /-- The priority. -/
  priority : Int64
  /-- The asserted flags, with repeats. -/
  assertions : List Assertion
  /-- The constants with values, with repeats. -/
  settings : List Setting
deriving DecidableEq, Repr

namespace LayerDescription

/-- Build the described layer. -/
def build (description : LayerDescription) : Except FlagError Layer :=
  Layer.build description.identifier description.priority description.assertions
    description.settings

/-- Two descriptions differ at most in the order of the assertions and in that of the
settings. -/
structure Reordered (first second : LayerDescription) : Prop where
  /-- The identifier is the same. -/
  identifier_eq : first.identifier = second.identifier
  /-- The priority is the same. -/
  priority_eq : first.priority = second.priority
  /-- The assertions are the same, as often. -/
  assertions_perm : first.assertions.Perm second.assertions
  /-- The settings are the same, as often. -/
  settings_perm : first.settings.Perm second.settings

/-- Two lists of descriptions differ at most in their order and in the order within each
description. -/
def ReorderedAll (first second : List LayerDescription) : Prop :=
  ∃ middle, first.Perm middle ∧ List.Forall₂ Reordered middle second

end LayerDescription

/-- The description of a layer without repeats. -/
def Layer.description (layer : Layer) : LayerDescription :=
  { identifier := layer.identifier
    priority := layer.priority
    assertions := layer.assertions
    settings := layer.settings }

/-- Two layers differ at most in the order of what they say. -/
def Layer.Reordered (first second : Layer) : Prop :=
  first.description.Reordered second.description

/-- Build the described layers, gather them in a layer set and resolve it. -/
def Registry.resolveDescribed (registry : Registry) (descriptions : List LayerDescription) :
    Except FlagError Configuration := do
  let layers ← descriptions.mapM LayerDescription.build
  let layerSet ← LayerSet.ofLayers layers
  registry.resolve layerSet

/-- Two resolutions come to the same. -/
structure SameResult (first second : Except FlagError Configuration) : Prop where
  /-- One succeeds exactly when the other does. -/
  exists_ok_iff : (∃ configuration, first = .ok configuration) ↔
    ∃ configuration, second = .ok configuration
  /-- The configurations are equal, with the sources and the overridden layers of all flags. -/
  configuration_eq : ∀ configuration other, first = .ok configuration → second = .ok other →
    configuration = other
  /-- So is all that is made of them: the fingerprint, the violations of the constraints of any
  registry, and the header and the listing if the gate of that registry is passed. -/
  outputs_eq : ∀ configuration other, first = .ok configuration → second = .ok other →
    configuration.fingerprint = other.fingerprint ∧
      ∀ judge : Registry, configuration.violations judge = other.violations judge ∧
        (ValidConfiguration.ofConfiguration configuration judge).map
            (fun valid => (valid.header, valid.listing)) =
          (ValidConfiguration.ofConfiguration other judge).map
            (fun valid => (valid.header, valid.listing))

/-! ## Descriptions -/

namespace LayerDescription

variable {first second : LayerDescription}

theorem Reordered.symm (h : first.Reordered second) : second.Reordered first where
  identifier_eq := h.identifier_eq.symm
  priority_eq := h.priority_eq.symm
  assertions_perm := h.assertions_perm.symm
  settings_perm := h.settings_perm.symm

/-- If a layer can be built then so can the reordered one, and they say the same. -/
theorem Reordered.exists_build (h : first.Reordered second) {layer : Layer}
    (hbuild : first.build = .ok layer) :
    ∃ other, second.build = .ok other ∧ layer.Reordered other := by
  obtain ⟨legal, hidentifier, hpriority, hassertions, hsettings⟩ :=
    Layer.build_eq_ok_iff.1 hbuild
  obtain ⟨assertions, hassertions', hassertionsPerm⟩ :=
    exists_mergeRepeats_of_perm h.assertions_perm hassertions
  obtain ⟨settings, hsettings', hsettingsPerm⟩ :=
    exists_mergeRepeats_of_perm h.settings_perm hsettings
  let other : Layer :=
    { identifier := second.identifier
      priority := second.priority
      assertions := assertions
      settings := settings
      legal := h.identifier_eq ▸ legal
      assertions_nodup := nodup_of_mergeRepeats_eq_ok hassertions' List.nodup_nil
      settings_nodup := nodup_of_mergeRepeats_eq_ok hsettings' List.nodup_nil }
  refine ⟨other, Layer.build_eq_ok_iff.2 ⟨other.legal, rfl, rfl, hassertions', hsettings'⟩, ?_⟩
  exact
    { identifier_eq := hidentifier.trans h.identifier_eq
      priority_eq := hpriority.trans h.priority_eq
      assertions_perm := hassertionsPerm
      settings_perm := hsettingsPerm }

variable {firsts seconds : List LayerDescription}

/-- Layers that are built one by one say the same as the reordered ones. -/
theorem exists_forall₂_build (h : List.Forall₂ Reordered firsts seconds) {layers : List Layer}
    (hbuild : List.Forall₂ (fun description layer => description.build = .ok layer) firsts
      layers) :
    ∃ others,
      List.Forall₂ (fun description layer => description.build = .ok layer) seconds others ∧
        List.Forall₂ Layer.Reordered layers others := by
  induction h generalizing layers with
  | nil =>
    obtain rfl := List.forall₂_nil_left_iff.1 hbuild
    exact ⟨[], .nil, .nil⟩
  | cons hhead _ ih =>
    obtain ⟨layer, rest, hlayer, hrest, rfl⟩ := List.forall₂_cons_left_iff.1 hbuild
    obtain ⟨other, hother, hsame⟩ := hhead.exists_build hlayer
    obtain ⟨others, hothers, hsames⟩ := ih hrest
    exact ⟨other :: others, .cons hother hothers, .cons hsame hsames⟩

theorem ReorderedAll.symm (h : ReorderedAll firsts seconds) : ReorderedAll seconds firsts := by
  obtain ⟨middle, hperm, hsame⟩ := h
  have hback : List.Forall₂ Reordered seconds middle :=
    (hsame.imp fun _ _ => Reordered.symm).flip
  -- the two steps are taken in the other order on the way back
  have hcomp : Relation.Comp (List.Forall₂ Reordered) List.Perm seconds firsts :=
    ⟨middle, hback, hperm.symm⟩
  rw [List.forall₂_comp_perm_eq_perm_comp_forall₂] at hcomp
  exact hcomp

end LayerDescription

/-! ## Layers -/

section Layers

variable {layer other : Layer}

/-- Layers that say the same assert the same states. -/
theorem Layer.Reordered.stateOf?_eq (h : layer.Reordered other) (flag : String) :
    layer.stateOf? flag = other.stateOf? flag := by
  ext state
  rw [Layer.stateOf?_eq_some_iff, Layer.stateOf?_eq_some_iff]
  exact h.assertions_perm.mem_iff

/-- Layers that say the same fit the same flags. -/
theorem Layer.Reordered.fits (h : layer.Reordered other) {names : List String}
    (hfits : layer.Fits names) : other.Fits names where
  known := fun assertion hmem => hfits.known assertion (h.assertions_perm.mem_iff.2 hmem)
  noFlag := fun setting hmem => hfits.noFlag setting (h.settings_perm.mem_iff.2 hmem)

/-- Configurations with the same entries and the same settings are equal, because the settings
ascend. -/
theorem Configuration.eq_of_mem_settings_iff {configuration other : Configuration}
    (hentries : configuration.entries = other.entries)
    (hsettings : ∀ setting, setting ∈ configuration.settings ↔ setting ∈ other.settings) :
    configuration = other := by
  have : Std.Irrefl fun first second : ResolvedSetting => first.name < second.name :=
    ⟨fun _ => String.lt_irrefl _⟩
  have : Std.Antisymm fun first second : ResolvedSetting => first.name < second.name :=
    ⟨fun _ _ hlt hgt => absurd (String.lt_trans hlt hgt) (String.lt_irrefl _)⟩
  have heq : configuration.settings = other.settings :=
    configuration.settings_ascending.eq_of_mem_iff other.settings_ascending hsettings
  cases configuration
  cases other
  simp only at hentries heq
  simp only [hentries, heq]

/-- Layers that say the same change a configuration in the same way. -/
theorem Configuration.withLayer_eq_of_reordered (h : layer.Reordered other)
    (configuration : Configuration) :
    configuration.withLayer layer = configuration.withLayer other := by
  have hidentifier : layer.identifier = other.identifier := h.identifier_eq
  apply Configuration.eq_of_mem_settings_iff
  · rw [entries_withLayer, entries_withLayer]
    refine List.map_congr_left fun entry _ => ?_
    rw [Entry.applyLayer, Entry.applyLayer, h.stateOf?_eq, hidentifier]
  · intro setting
    have hsaid : setting.said ∈ layer.settings ↔ setting.said ∈ other.settings :=
      h.settings_perm.mem_iff
    have hname : setting.name ∈ layer.settings.map (·.name) ↔
        setting.name ∈ other.settings.map (·.name) := (h.settings_perm.map _).mem_iff
    rw [mem_settings_withLayer_iff, mem_settings_withLayer_iff, hsaid, hname, hidentifier]

variable {layers others : List Layer}

/-- So do runs of such layers. -/
theorem Configuration.foldl_withLayer_eq_of_reordered
    (h : List.Forall₂ Layer.Reordered layers others) (configuration : Configuration) :
    layers.foldl withLayer configuration = others.foldl withLayer configuration := by
  induction h generalizing configuration with
  | nil => rfl
  | cons hhead _ ih =>
    rw [List.foldl_cons, List.foldl_cons, withLayer_eq_of_reordered hhead, ih]

/-- If all layers fit some flags then so do the reordered ones. -/
theorem Layer.fits_of_reordered (h : List.Forall₂ Layer.Reordered layers others)
    {names : List String} (hfits : ∀ layer ∈ layers, layer.Fits names) :
    ∀ other ∈ others, other.Fits names := by
  intro other hother
  obtain ⟨layer, hlayer, hsame⟩ := exists_mem_of_forall₂ h hother
  exact hsame.fits (hfits layer hlayer)

/-- A layer set can be built of the reordered layers, and it holds them in the same order. -/
theorem LayerSet.exists_ofLayers_of_reordered {middle : List Layer} {layerSet : LayerSet}
    (hset : ofLayers layers = .ok layerSet) (hperm : middle.Perm layers)
    (h : List.Forall₂ Layer.Reordered middle others) :
    ∃ otherSet, ofLayers others = .ok otherSet ∧
      List.Forall₂ Layer.Reordered layerSet.layers otherSet.layers := by
  have hlayers : layerSet.layers.Perm middle := (ofLayers_eq_ok_iff.1 hset).trans hperm.symm
  -- the other layers in the order in which the set holds theirs
  obtain ⟨arranged, hsame, hothers⟩ := List.perm_comp_forall₂ hlayers h
  have hidentifiers : layerSet.layers.map (·.identifier) = arranged.map (·.identifier) :=
    map_eq_of_forall₂ (fun _ _ hlayer => hlayer.identifier_eq) hsame
  have hpriorities : layerSet.layers.map (·.priority) = arranged.map (·.priority) :=
    map_eq_of_forall₂ (fun _ _ hlayer => hlayer.priority_eq) hsame
  let otherSet : LayerSet :=
    { layers := arranged
      identifiers_nodup := hidentifiers ▸ layerSet.identifiers_nodup
      ascending := List.pairwise_map.1 (hpriorities ▸ List.pairwise_map.2 layerSet.ascending) }
  exact ⟨otherSet, ofLayers_eq_ok_iff.2 hothers, hsame⟩

/-- Layer sets that hold the same layers in the same order are resolved to the same. -/
theorem Registry.resolve_eq_ok_of_reordered {registry : Registry} {layerSet otherSet : LayerSet}
    (h : List.Forall₂ Layer.Reordered layerSet.layers otherSet.layers)
    {configuration : Configuration} (hresolve : registry.resolve layerSet = .ok configuration) :
    registry.resolve otherSet = .ok configuration := by
  rw [resolve_eq_ok_iff] at hresolve ⊢
  obtain ⟨hfits, rfl⟩ := hresolve
  exact ⟨Layer.fits_of_reordered h hfits,
    (Configuration.foldl_withLayer_eq_of_reordered h _).symm⟩

end Layers

/-! ## The whole way -/

/-- Resolution from descriptions succeeds exactly when the layers can be built, some layer set
holds them, and that one is resolved. -/
theorem Registry.resolveDescribed_eq_ok_iff {registry : Registry}
    {descriptions : List LayerDescription} {configuration : Configuration} :
    registry.resolveDescribed descriptions = .ok configuration ↔
      ∃ layers layerSet,
        List.Forall₂ (fun description layer => description.build = .ok layer) descriptions
          layers ∧
        LayerSet.ofLayers layers = .ok layerSet ∧
        registry.resolve layerSet = .ok configuration := by
  simp only [resolveDescribed, bind_eq_ok_iff, mapM_eq_ok_iff]
  constructor
  · rintro ⟨layers, hbuild, layerSet, hset, hresolve⟩
    exact ⟨layers, layerSet, hbuild, hset, hresolve⟩
  · rintro ⟨layers, layerSet, hbuild, hset, hresolve⟩
    exact ⟨layers, hbuild, layerSet, hset, hresolve⟩

/-- A configuration that is resolved from descriptions is resolved from the reordered ones. -/
theorem Registry.resolveDescribed_eq_ok_of_reordered {registry : Registry}
    {first second : List LayerDescription} (h : LayerDescription.ReorderedAll first second)
    {configuration : Configuration}
    (hresolve : registry.resolveDescribed first = .ok configuration) :
    registry.resolveDescribed second = .ok configuration := by
  obtain ⟨middle, hperm, hsame⟩ := h
  obtain ⟨layers, layerSet, hbuild, hset, hconfiguration⟩ := resolveDescribed_eq_ok_iff.1 hresolve
  -- first the order of the descriptions changes, and with it that of the built layers
  obtain ⟨middleLayers, hmiddle, hlayersPerm⟩ := List.perm_comp_forall₂ hperm.symm hbuild
  -- then the order within each description
  obtain ⟨others, hothers, hlayers⟩ := LayerDescription.exists_forall₂_build hsame hmiddle
  obtain ⟨otherSet, hotherSet, harranged⟩ :=
    LayerSet.exists_ofLayers_of_reordered hset hlayersPerm hlayers
  exact resolveDescribed_eq_ok_iff.2 ⟨others, otherSet, hothers, hotherSet,
    resolve_eq_ok_of_reordered harranged hconfiguration⟩

/-- Descriptions of the same layers in different orders come to the same over every registry. -/
theorem Registry.sameResult_resolveDescribed (registry : Registry)
    {first second : List LayerDescription} (h : LayerDescription.ReorderedAll first second) :
    SameResult (registry.resolveDescribed first) (registry.resolveDescribed second) := by
  have heq : ∀ configuration other, registry.resolveDescribed first = .ok configuration →
      registry.resolveDescribed second = .ok other → configuration = other := by
    intro configuration other hfirst hsecond
    have hfirst' := resolveDescribed_eq_ok_of_reordered h hfirst
    exact Except.ok.inj (hfirst'.symm.trans hsecond)
  refine
    { exists_ok_iff := ⟨?_, ?_⟩
      configuration_eq := heq
      outputs_eq := fun configuration other hfirst hsecond => ?_ }
  · rintro ⟨configuration, hfirst⟩
    exact ⟨configuration, resolveDescribed_eq_ok_of_reordered h hfirst⟩
  · rintro ⟨configuration, hsecond⟩
    exact ⟨configuration, resolveDescribed_eq_ok_of_reordered h.symm hsecond⟩
  · obtain rfl := heq configuration other hfirst hsecond
    exact ⟨rfl, fun judge => ⟨rfl, rfl⟩⟩

/-- A layer that logs and traces, and one above it that does neither. The upper one is described
first, and it repeats itself. -/
def upperFirst : List LayerDescription :=
  [ { identifier := "upper", priority := 10
      assertions := [⟨"LOG", .disabled⟩, ⟨"TRACE", .disabled⟩, ⟨"LOG", .disabled⟩]
      settings := [⟨"LEVEL", "0"⟩, ⟨"DEPTH", "2"⟩] },
    { identifier := "lower", priority := 0
      assertions := [⟨"TRACE", .enabled⟩, ⟨"LOG", .enabled⟩]
      settings := [⟨"LEVEL", "1"⟩, ⟨"WIDTH", "3"⟩] } ]

/-- The same layers, the lower one first, and what each of them says in another order. -/
def lowerFirst : List LayerDescription :=
  [ { identifier := "lower", priority := 0
      assertions := [⟨"LOG", .enabled⟩, ⟨"TRACE", .enabled⟩]
      settings := [⟨"WIDTH", "3"⟩, ⟨"LEVEL", "1"⟩] },
    { identifier := "upper", priority := 10
      assertions := [⟨"TRACE", .disabled⟩, ⟨"LOG", .disabled⟩, ⟨"LOG", .disabled⟩]
      settings := [⟨"DEPTH", "2"⟩, ⟨"LEVEL", "0"⟩] } ]

/-- The layer set that both describe. -/
def lowerThenUpper : LayerSet :=
  { layers :=
      [ { identifier := "lower", priority := 0
          assertions := [⟨"TRACE", .enabled⟩, ⟨"LOG", .enabled⟩]
          settings := [⟨"LEVEL", "1"⟩, ⟨"WIDTH", "3"⟩], legal := by decide
          assertions_nodup := by decide, settings_nodup := by decide },
        { identifier := "upper", priority := 10
          assertions := [⟨"LOG", .disabled⟩, ⟨"TRACE", .disabled⟩]
          settings := [⟨"LEVEL", "0"⟩, ⟨"DEPTH", "2"⟩], legal := by decide
          assertions_nodup := by decide, settings_nodup := by decide } ]
    identifiers_nodup := by decide
    ascending := by decide }

theorem reorderedAll_upperFirst : LayerDescription.ReorderedAll upperFirst lowerFirst := by
  refine ⟨upperFirst.reverse, by decide, .cons ?_ (.cons ?_ .nil)⟩
  · exact ⟨rfl, rfl, by decide, by decide⟩
  · exact ⟨rfl, rfl, by decide, by decide⟩

/-- Both come to the configuration in which the upper layer decides. -/
theorem sameResult_upperFirst : LayerDescription.ReorderedAll upperFirst lowerFirst ∧
    (∃ configuration, traceAndLog.resolveDescribed upperFirst = .ok configuration ∧
      configuration.entries =
        [⟨"TRACE", .disabled, "upper", ["lower"]⟩, ⟨"LOG", .disabled, "upper", ["lower"]⟩] ∧
      configuration.settings =
        [⟨"DEPTH", "2", "upper"⟩, ⟨"LEVEL", "0", "upper"⟩, ⟨"WIDTH", "3", "lower"⟩]) ∧
    SameResult (traceAndLog.resolveDescribed upperFirst)
      (traceAndLog.resolveDescribed lowerFirst) := by
  refine ⟨reorderedAll_upperFirst, ?_,
    Registry.sameResult_resolveDescribed traceAndLog reorderedAll_upperFirst⟩
  have hset : LayerSet.ofLayers lowerThenUpper.layers.reverse = .ok lowerThenUpper :=
    LayerSet.ofLayers_eq_ok_iff.2 (List.reverse_perm _).symm
  exact ⟨_, Registry.resolveDescribed_eq_ok_iff.2
    ⟨_, _, .cons rfl (.cons rfl .nil), hset, rfl⟩, by decide, by decide⟩

end LayeredFlags
