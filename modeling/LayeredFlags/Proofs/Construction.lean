import LayeredFlags.Proofs.Outcome
import LayeredFlags.Stack.Loading
import Mathlib.Data.List.Nodup
/-!
# What Is Built

Registries, layers and layer sets are built from lists that may be refused. This file says
what is in them when they are built, and which lists are refused.

## Main results

* `Registry.definitions_of_ofDefinitions`: a registry has the definitions that it is built from;
* `Catalog.toRegistry_eq_ok_iff`: when a catalog is a registry;
* `Catalog.isValid_of_toRegistry`: the flags of a catalog have valid names;
* `Layer.ofAssertions_eq_ok_iff`, `Layer.ofAssertions_eq_error_iff`, `Layer.withSettings_eq_ok_iff`,
  `Layer.withSettings_eq_error_iff`: the two steps of building a layer;
* `Layer.build_eq_ok_iff`: when a layer is built, and what it says;
* `LayerSet.ofLayers_singleton`: one layer alone is a layer set;
* `LayerSet.ofLayers_eq_ok_iff`: a layer set is built from its layers in any order;
* `LayerSet.exists_layers_perm_iff`: which layers make a layer set;
* `LayerEntry.checkAll_eq_ok_iff`: which entries pass the check of a manifest.
-/

namespace LayeredFlags

/-- A registry has the definitions that it is built from. -/
theorem Registry.definitions_of_ofDefinitions {definitions : List FlagDefinition}
    {registry : Registry} (h : ofDefinitions definitions = .ok registry) :
    registry.definitions = definitions := by
  unfold ofDefinitions at h
  split at h
  · cases h
  · split at h
    · cases h
    · cases h
      rfl

/-- A catalog is a registry if it has flags, all with valid names, and their definitions are
one. -/
theorem Catalog.toRegistry_eq_ok_iff {catalog : Catalog} {registry : Registry} :
    catalog.toRegistry = .ok registry ↔
      catalog.flags ≠ [] ∧ (∀ flag ∈ catalog.flags, FlagName.isValid flag.name = true) ∧
        Registry.ofDefinitions (catalog.flags.map CatalogFlag.toDefinition) = .ok registry := by
  unfold toRegistry
  split
  · next hempty => simp [List.isEmpty_iff.1 hempty]
  · next hempty =>
    rw [List.isEmpty_iff] at hempty
    split
    · next flag hinvalid =>
      have hname : FlagName.isValid flag.name = false := by simpa using List.find?_some hinvalid
      simp only [reduceCtorEq, false_iff, not_and]
      intro _ hvalid
      rw [hvalid flag (List.mem_of_find?_eq_some hinvalid)] at hname
      cases hname
    · next hvalid =>
      have hvalid' : ∀ flag ∈ catalog.flags, FlagName.isValid flag.name = true := by
        simpa using hvalid
      rw [liftFlag, mapError_eq_ok_iff]
      exact ⟨fun h => ⟨hempty, hvalid', h⟩, fun h => h.2.2⟩

/-- The registry of a catalog has the definitions of its flags. -/
theorem Catalog.definitions_of_toRegistry {catalog : Catalog} {registry : Registry}
    (h : catalog.toRegistry = .ok registry) :
    registry.definitions = catalog.flags.map CatalogFlag.toDefinition :=
  Registry.definitions_of_ofDefinitions (toRegistry_eq_ok_iff.1 h).2.2

/-- The registry of a catalog has identifiers as names. -/
theorem Catalog.isValid_of_toRegistry {catalog : Catalog} {registry : Registry}
    (h : catalog.toRegistry = .ok registry) {name : String} (hname : name ∈ registry.names) :
    FlagName.isValid name = true := by
  rw [Registry.names, definitions_of_toRegistry h, List.map_map] at hname
  obtain ⟨flag, hflag, rfl⟩ := List.mem_map.1 hname
  exact (toRegistry_eq_ok_iff.1 h).2.1 flag hflag

/-- A layer without settings is built if its identifier is legal and its assertions can be merged,
and then it says the merged ones. -/
theorem Layer.ofAssertions_eq_ok_iff {identifier : String} {priority : Int64}
    {assertions : List Assertion} {layer : Layer} :
    ofAssertions identifier priority assertions = .ok layer ↔
      LegalIdentifier identifier ∧ layer.identifier = identifier ∧
        layer.priority = priority ∧
        mergeRepeats Assertion.flag [] assertions = .ok layer.assertions ∧ layer.settings = [] := by
  obtain ⟨layerId, layerPriority, said, set, hlegal, hsaid, hset⟩ := layer
  unfold ofAssertions
  split
  · next legal =>
    split
    · next flag herror => simp [herror]
    · next merged hmerged =>
      simp only [hmerged, legal, Except.ok.injEq, mk.injEq, true_and]
      constructor
      · rintro ⟨rfl, rfl, rfl, rfl⟩
        exact ⟨rfl, rfl, rfl, rfl⟩
      · rintro ⟨rfl, rfl, rfl, rfl⟩
        exact ⟨rfl, rfl, rfl, rfl⟩
  · next illegal => simp [illegal]

/-- It is refused for its identifier, or else for assertions that cannot be merged. -/
theorem Layer.ofAssertions_eq_error_iff {identifier : String} {priority : Int64}
    {assertions : List Assertion} {error : FlagError} :
    ofAssertions identifier priority assertions = .error error ↔
      ¬ LegalIdentifier identifier ∧ .invalidLayerIdentifier identifier = error ∨
        LegalIdentifier identifier ∧
          ∃ flag, mergeRepeats Assertion.flag [] assertions = .error flag ∧
            .duplicateAssertionInLayer identifier flag = error := by
  unfold ofAssertions
  split
  · next legal =>
    split
    · next flag herror => simp [legal, herror]
    · next merged hmerged => simp [legal, hmerged]
  · next illegal => simp [illegal]

/-- Settings are merged with those of the layer, and nothing else in it changes. -/
theorem Layer.withSettings_eq_ok_iff {layer next : Layer} {settings : List Setting} :
    layer.withSettings settings = .ok next ↔
      next.identifier = layer.identifier ∧ next.priority = layer.priority ∧
        next.assertions = layer.assertions ∧
        mergeRepeats Setting.name layer.settings settings = .ok next.settings := by
  obtain ⟨nextId, nextPriority, said, set, hlegal, hsaid, hset⟩ := next
  unfold withSettings
  split
  · next name herror => simp [herror]
  · next merged hmerged =>
    simp only [hmerged, Except.ok.injEq, mk.injEq]
    constructor
    · rintro ⟨rfl, rfl, rfl, rfl⟩
      exact ⟨rfl, rfl, rfl, rfl⟩
    · rintro ⟨rfl, rfl, rfl, rfl⟩
      exact ⟨rfl, rfl, rfl, rfl⟩

/-- Settings are refused if they cannot be merged with those of the layer. -/
theorem Layer.withSettings_eq_error_iff {layer : Layer} {settings : List Setting}
    {error : FlagError} :
    layer.withSettings settings = .error error ↔
      ∃ name, mergeRepeats Setting.name layer.settings settings = .error name ∧
        .duplicateAssertionInLayer layer.identifier name = error := by
  unfold withSettings
  split
  · next name herror => simp [herror]
  · next merged hmerged => simp [hmerged]

/-- A layer is built if its identifier is legal and nothing that it says disagrees, and then it
says the merged assertions and settings. -/
theorem Layer.build_eq_ok_iff {identifier : String} {priority : Int64}
    {assertions : List Assertion} {settings : List Setting} {layer : Layer} :
    build identifier priority assertions settings = .ok layer ↔
      LegalIdentifier identifier ∧ layer.identifier = identifier ∧
        layer.priority = priority ∧
        mergeRepeats Assertion.flag [] assertions = .ok layer.assertions ∧
        mergeRepeats Setting.name [] settings = .ok layer.settings := by
  simp only [build, bind_eq_ok_iff, ofAssertions_eq_ok_iff, withSettings_eq_ok_iff]
  constructor
  · rintro ⟨base, ⟨legal, rfl, rfl, hassertions, hnil⟩, hid, hpriority, hsaid, hsettings⟩
    rw [hnil] at hsettings
    rw [← hsaid] at hassertions
    exact ⟨legal, hid, hpriority, hassertions, hsettings⟩
  · rintro ⟨legal, rfl, rfl, hassertions, hsettings⟩
    -- the layer as it is before its settings are added
    exact ⟨{ layer with settings := [], settings_nodup := List.nodup_nil },
      ⟨legal, rfl, rfl, hassertions, rfl⟩, rfl, rfl, rfl, hsettings⟩

/-- One layer alone is a layer set. -/
theorem LayerSet.ofLayers_singleton (layer : Layer) :
    ∃ layerSet, ofLayers [layer] = .ok layerSet ∧ layerSet.layers = [layer] := by
  have harrange : arrange [layer] = [layer] := List.mergeSort_singleton layer
  unfold ofLayers
  split
  · next hrepeat => simp [firstRepeat?, firstRepeatAfter] at hrepeat
  · split
    · next hclash =>
      rw [harrange] at hclash
      cases hclash
    · exact ⟨_, rfl, harrange⟩

/-- Layers that ascend strictly do not clash. -/
theorem LayerSet.firstClash?_eq_none_of_ascending {layers : List Layer}
    (h : layers.Pairwise (·.priority < ·.priority)) : firstClash? layers = none := by
  induction layers with
  | nil => rfl
  | cons first rest ih =>
    obtain ⟨hfirst, hrest⟩ := List.pairwise_cons.1 h
    cases rest with
    | nil => rfl
    | cons second rest =>
      have hne : first.priority ≠ second.priority := fun heq =>
        Int64.lt_irrefl (heq ▸ hfirst second List.mem_cons_self)
      rw [firstClash?, if_neg hne]
      exact ih hrest

/-- No two layers of a set have the same priority. -/
theorem LayerSet.priorities_nodup (layerSet : LayerSet) :
    (layerSet.layers.map (·.priority)).Nodup :=
  List.pairwise_map.2 (layerSet.ascending.imp Int64.ne_of_lt)

/-- The layers of a set, in any order, are arranged as they stand in the set. -/
theorem LayerSet.arrange_eq_of_perm {layers : List Layer} {layerSet : LayerSet}
    (h : layerSet.layers.Perm layers) : arrange layers = layerSet.layers := by
  have hperm : (arrange layers).Perm layerSet.layers := (perm_arrange layers).trans h.symm
  -- no two layers of the set have one priority, so that the order leaves no choice
  have hinj : ∀ first ∈ layerSet.layers, ∀ second ∈ layerSet.layers,
      first.priority = second.priority → first = second := by
    intro first hfirst second hsecond heq
    exact List.inj_on_of_nodup_map layerSet.priorities_nodup hfirst hsecond heq
  have hsorted : layerSet.layers.Pairwise (·.priority ≤ ·.priority) :=
    layerSet.ascending.imp Int64.le_of_lt
  refine List.Perm.eq_of_pairwise ?_ (pairwise_arrange layers) hsorted hperm
  intro first second hfirst hsecond hle hge
  exact hinj first (hperm.mem_iff.1 hfirst) second hsecond (Int64.le_antisymm hle hge)

/-- A layer set is built from its layers in any order, and from no other layers. -/
theorem LayerSet.ofLayers_eq_ok_iff {layers : List Layer} {layerSet : LayerSet} :
    ofLayers layers = .ok layerSet ↔ layerSet.layers.Perm layers := by
  constructor
  · intro h
    unfold ofLayers at h
    split at h
    · cases h
    · split at h
      · cases h
      · cases h
        exact perm_arrange layers
  · intro hperm
    have harrange := arrange_eq_of_perm hperm
    unfold ofLayers
    split
    · next identifier hrepeat =>
      have hnodup := (hperm.map (·.identifier)).nodup_iff.1 layerSet.identifiers_nodup
      rw [firstRepeat?_eq_none_iff.2 hnodup] at hrepeat
      cases hrepeat
    · split
      · next first second hclash =>
        rw [harrange, firstClash?_eq_none_of_ascending layerSet.ascending] at hclash
        cases hclash
      · simp only [harrange]

/-- A layer set can be built from layers without a common identifier or a common priority. -/
theorem LayerSet.exists_layers_perm_iff {layers : List Layer} :
    (∃ layerSet : LayerSet, layerSet.layers.Perm layers) ↔
      (layers.map (·.identifier)).Nodup ∧ (layers.map (·.priority)).Nodup := by
  constructor
  · rintro ⟨layerSet, hperm⟩
    exact ⟨(hperm.map _).nodup_iff.1 layerSet.identifiers_nodup,
      (hperm.map _).nodup_iff.1 layerSet.priorities_nodup⟩
  · rintro ⟨hidentifiers, hpriorities⟩
    have hperm := perm_arrange layers
    have hnodup : ((arrange layers).map (·.priority)).Nodup :=
      (hperm.map (·.priority)).nodup_iff.2 hpriorities
    have hascending : (arrange layers).Pairwise (·.priority < ·.priority) :=
      (pairwise_arrange layers).imp₂ (fun _ _ => Int64.lt_of_le_of_ne) (List.pairwise_map.1 hnodup)
    exact ⟨⟨arrange layers, (hperm.map _).nodup_iff.2 hidentifiers, hascending⟩, hperm⟩

theorem LayerEntry.firstFault?_eq_none_iff {seen : List String} {entries : List LayerEntry} :
    firstFault? seen entries = none ↔
      (∀ entry ∈ entries, LegalIdentifier entry.id) ∧
        firstRepeatAfter seen (entries.map (·.id)) = none := by
  induction entries generalizing seen with
  | nil => simp [firstFault?, firstRepeatAfter]
  | cons entry rest ih =>
    rw [firstFault?, List.map_cons, firstRepeatAfter, List.forall_mem_cons, LegalIdentifier]
    split
    · next hblank => simp [hblank]
    · next hblank =>
      split
      · next hreserved => simp [hreserved]
      · next hreserved =>
        split
        · next hseen => simp
        · next hseen => simp [ih, hblank, hreserved]

/-- Entries pass the check if their identifiers are legal and distinct. -/
theorem LayerEntry.checkAll_eq_ok_iff {entries : List LayerEntry} :
    checkAll entries = .ok () ↔
      (∀ entry ∈ entries, LegalIdentifier entry.id) ∧ (entries.map (·.id)).Nodup := by
  rw [← firstRepeat?_eq_none_iff, firstRepeat?, ← firstFault?_eq_none_iff, checkAll]
  cases firstFault? [] entries <;> simp

end LayeredFlags
