import LayeredFlags.Configuration
import LayeredFlags.Proofs.Outcome
/-!
# Applying Layers

A layer that fits the flags of a configuration can be applied, and the outcome is a total
function of the two. This file takes the failures out of resolution once: resolution succeeds
exactly when every layer fits, and then it is a fold over the layers (`resolve_eq_ok_iff`).

## Main definitions

* `Layer.Fits`: the layer asserts known flags only and sets no flag;
* `Configuration.withLayer`: the configuration after a layer that fits;
* `Entry.applyLayer`: the entry of one flag after a layer;
* `ResolvedSetting.said`: what a resolved setting says, without its source.

## Main results

* `resolve_eq_ok_iff`: when resolution succeeds, and what it gives;
* `entries_withLayer`: the entries after a layer;
* `mem_settings_withLayer_iff`: the settings after a layer.
-/

namespace LayeredFlags

/-- The layer asserts known flags only, and the constants that it sets are no flags. -/
structure Layer.Fits (layer : Layer) (names : List String) : Prop where
  /-- Every asserted flag is known. -/
  known : ∀ assertion ∈ layer.assertions, assertion.flag ∈ names
  /-- No constant is a flag. -/
  noFlag : ∀ setting ∈ layer.settings, setting.name ∉ names

/-- The entry after all that the layer asserts: it changes if the layer asserts its flag. -/
def Entry.applyLayer (layer : Layer) (entry : Entry) : Entry :=
  match layer.stateOf? entry.flag with
  | some state => entry.assert layer.identifier state
  | none => entry

namespace Configuration

/-! ## One assertion or setting -/

/-- The configuration after an assertion of the named layer. -/
def withAssertion (layer : String) (configuration : Configuration) (assertion : Assertion) :
    Configuration :=
  { configuration with
    entries := assertIn layer assertion configuration.entries
    flags_nodup := by simpa using configuration.flags_nodup }

/-- The configuration after a setting of the named layer. -/
def withSetting (layer : String) (configuration : Configuration) (setting : Setting) :
    Configuration :=
  { configuration with
    settings :=
      ResolvedSetting.insert ⟨setting.name, setting.value, layer⟩ configuration.settings
    settings_ascending :=
      ResolvedSetting.pairwise_insert _ configuration.settings_ascending }

variable {configuration : Configuration} {layer : String}

/-- An assertion leaves the flags as they are. -/
@[simp]
theorem flags_withAssertion (assertion : Assertion) :
    (configuration.withAssertion layer assertion).flags = configuration.flags :=
  map_flag_assertIn layer assertion configuration.entries

/-- A setting leaves the flags as they are. -/
@[simp]
theorem flags_withSetting (setting : Setting) :
    (configuration.withSetting layer setting).flags = configuration.flags := rfl

/-- Assertions can be applied exactly when their flags are known. -/
theorem foldlM_assert_eq_ok_iff {assertions : List Assertion} {result : Configuration} :
    assertions.foldlM (fun c a => c.assert layer a) configuration = .ok result ↔
      (∀ assertion ∈ assertions, assertion.flag ∈ configuration.flags) ∧
        assertions.foldl (withAssertion layer) configuration = result := by
  -- no step changes the flags, so that all of them are checked against the same ones
  induction assertions generalizing configuration with
  | nil => simp
  | cons assertion rest ih =>
    by_cases hflag : assertion.flag ∈ configuration.flags
    · have hstep : configuration.assert layer assertion =
          .ok (configuration.withAssertion layer assertion) := by
        rw [assert, if_pos hflag]
        rfl
      simp [hstep, ih, hflag]
    · simp [assert, hflag]

/-- Settings can be applied exactly when they name no flag. -/
theorem foldlM_set_eq_ok_iff {settings : List Setting} {result : Configuration} :
    settings.foldlM (fun c s => c.set layer s) configuration = .ok result ↔
      (∀ setting ∈ settings, setting.name ∉ configuration.flags) ∧
        settings.foldl (withSetting layer) configuration = result := by
  induction settings generalizing configuration with
  | nil => simp
  | cons setting rest ih =>
    by_cases hflag : setting.name ∈ configuration.flags
    · simp [set, hflag]
    · have hstep : configuration.set layer setting =
          .ok (configuration.withSetting layer setting) := by
        rw [set, if_neg hflag]
        rfl
      simp [hstep, ih, hflag]

/-- Assertions leave the flags as they are. -/
theorem flags_foldl_withAssertion (assertions : List Assertion) :
    (assertions.foldl (withAssertion layer) configuration).flags = configuration.flags := by
  induction assertions generalizing configuration with
  | nil => rfl
  | cons assertion rest ih => rw [List.foldl_cons, ih, flags_withAssertion]

/-- Settings leave the entries as they are. -/
theorem entries_foldl_withSetting (settings : List Setting) :
    (settings.foldl (withSetting layer) configuration).entries = configuration.entries := by
  induction settings generalizing configuration with
  | nil => rfl
  | cons setting rest ih => rw [List.foldl_cons, ih, withSetting]

/-- Assertions leave the settings as they are. -/
theorem settings_foldl_withAssertion (assertions : List Assertion) :
    (assertions.foldl (withAssertion layer) configuration).settings =
      configuration.settings := by
  induction assertions generalizing configuration with
  | nil => rfl
  | cons assertion rest ih => rw [List.foldl_cons, ih, withAssertion]

/-! ## One layer -/

/-- The configuration after all that a layer says. -/
def withLayer (configuration : Configuration) (layer : Layer) : Configuration :=
  layer.settings.foldl (withSetting layer.identifier)
    (layer.assertions.foldl (withAssertion layer.identifier) configuration)

/-- A layer leaves the flags as they are. -/
@[simp]
theorem flags_withLayer (configuration : Configuration) (layer : Layer) :
    (configuration.withLayer layer).flags = configuration.flags := by
  rw [withLayer, flags, entries_foldl_withSetting, ← flags, flags_foldl_withAssertion]

/-- A layer can be applied exactly when it fits. -/
theorem apply_eq_ok_iff {layer : Layer} {result : Configuration} :
    configuration.apply layer = .ok result ↔
      layer.Fits configuration.flags ∧ configuration.withLayer layer = result := by
  simp only [apply, bind_eq_ok_iff, foldlM_assert_eq_ok_iff, foldlM_set_eq_ok_iff]
  -- the settings are checked after the assertions, against flags that are still the same
  constructor
  · rintro ⟨_, ⟨hknown, rfl⟩, hnoFlag, rfl⟩
    rw [flags_foldl_withAssertion] at hnoFlag
    exact ⟨⟨hknown, hnoFlag⟩, rfl⟩
  · rintro ⟨hfits, rfl⟩
    refine ⟨_, ⟨hfits.known, rfl⟩, ?_, rfl⟩
    rw [flags_foldl_withAssertion]
    exact hfits.noFlag

/-- Assertions of different flags change each entry on its own. -/
theorem entries_foldl_withAssertion {assertions : List Assertion}
    (h : (assertions.map (·.flag)).Nodup) :
    (assertions.foldl (withAssertion layer) configuration).entries =
      configuration.entries.map fun entry =>
        match assertions.find? (·.flag == entry.flag) with
        | some assertion => entry.assert layer assertion.state
        | none => entry := by
  -- induction on the assertions: the first one found is the only one of its flag
  induction assertions generalizing configuration with
  | nil => simp
  | cons assertion rest ih =>
    obtain ⟨hnew, hrest⟩ := List.nodup_cons.1 h
    rw [List.foldl_cons, ih hrest]
    simp only [withAssertion, assertIn, List.map_map]
    refine List.map_congr_left fun entry _ => ?_
    by_cases hflag : entry.flag = assertion.flag
    · have hnone : rest.find? (·.flag == assertion.flag) = none := by
        simp only [List.find?_eq_none, beq_iff_eq]
        intro other hother heq
        exact hnew (List.mem_map.2 ⟨other, hother, heq⟩)
      simp [hflag, Entry.assert, hnone]
    · simp [hflag, Ne.symm hflag]

/-- The entries after a layer. -/
theorem entries_withLayer (configuration : Configuration) (layer : Layer) :
    (configuration.withLayer layer).entries =
      configuration.entries.map (Entry.applyLayer layer) := by
  rw [withLayer, entries_foldl_withSetting, entries_foldl_withAssertion layer.assertions_nodup]
  refine List.map_congr_left fun entry _ => ?_
  unfold Entry.applyLayer Layer.stateOf?
  cases layer.assertions.find? (·.flag == entry.flag) <;> rfl

end Configuration

/-! ## The settings of a layer -/

/-- The setting as it stands in a configuration once the named layer has given it. -/
def Setting.resolved (layer : String) (setting : Setting) : ResolvedSetting :=
  ⟨setting.name, setting.value, layer⟩

/-- What a resolved setting says, without its source. -/
def ResolvedSetting.said (setting : ResolvedSetting) : Setting :=
  ⟨setting.name, setting.value⟩

/-- A resolved setting comes from a layer exactly when it says the same and names it. -/
theorem ResolvedSetting.eq_resolved_iff {layer : String} {setting : Setting}
    {resolved : ResolvedSetting} :
    resolved = setting.resolved layer ↔ resolved.said = setting ∧ resolved.source = layer := by
  constructor
  · rintro rfl
    exact ⟨rfl, rfl⟩
  · rintro ⟨rfl, rfl⟩
    rfl

/-- After an insertion a setting is the new one, or an old one of another name. -/
theorem ResolvedSetting.mem_insert_iff {new setting : ResolvedSetting}
    {settings : List ResolvedSetting} (h : settings.Pairwise (·.name < ·.name)) :
    setting ∈ insert new settings ↔
      setting = new ∨ setting ∈ settings ∧ setting.name ≠ new.name := by
  induction settings with
  | nil => simp [insert]
  | cons old rest ih =>
    obtain ⟨hold, hrest⟩ := List.pairwise_cons.1 h
    -- names above that of the new setting are other names
    have habove : ∀ s ∈ rest, new.name ≤ old.name → s.name ≠ new.name := by
      intro s hs hle heq
      exact String.not_lt.2 hle (heq ▸ hold s hs)
    -- the cases of the definition: in front of the old name, in its place, and behind it
    simp only [insert]
    split
    · next hlt =>
      have hne : old.name ≠ new.name := fun heq => String.lt_irrefl _ (heq ▸ hlt)
      have hle : new.name ≤ old.name := String.not_lt.1 fun hgt =>
        String.lt_irrefl _ (String.lt_trans hlt hgt)
      simp only [List.mem_cons]
      constructor
      · rintro (rfl | rfl | hmem)
        · exact .inl rfl
        · exact .inr ⟨.inl rfl, hne⟩
        · exact .inr ⟨.inr hmem, habove setting hmem hle⟩
      · rintro (rfl | ⟨rfl | hmem, -⟩)
        · exact .inl rfl
        · exact .inr (.inl rfl)
        · exact .inr (.inr hmem)
    · split
      · next heq =>
        simp only [List.mem_cons]
        constructor
        · rintro (rfl | hmem)
          · exact .inl rfl
          · exact .inr ⟨.inr hmem, habove setting hmem (heq ▸ String.le_refl _)⟩
        · rintro (rfl | ⟨rfl | hmem, hne⟩)
          · exact .inl rfl
          · exact absurd heq.symm hne
          · exact .inr hmem
      · next hne =>
        simp only [List.mem_cons, ih hrest]
        constructor
        · rintro (rfl | rfl | ⟨hmem, hother⟩)
          · exact .inr ⟨.inl rfl, Ne.symm hne⟩
          · exact .inl rfl
          · exact .inr ⟨.inr hmem, hother⟩
        · rintro (rfl | ⟨rfl | hmem, hother⟩)
          · exact .inr (.inl rfl)
          · exact .inl rfl
          · exact .inr (.inr ⟨hmem, hother⟩)

namespace Configuration

variable {configuration : Configuration} {layer : String}

/-- Settings of different constants replace the settings of these constants. -/
theorem mem_settings_foldl_withSetting_iff {settings : List Setting}
    (h : (settings.map (·.name)).Nodup) {setting : ResolvedSetting} :
    setting ∈ (settings.foldl (withSetting layer) configuration).settings ↔
      (setting.said ∈ settings ∧ setting.source = layer) ∨
        setting ∈ configuration.settings ∧ setting.name ∉ settings.map (·.name) := by
  -- induction on the settings: a later one never replaces the first, their names differ
  induction settings generalizing configuration with
  | nil => simp
  | cons first rest ih =>
    obtain ⟨hnew, hrest⟩ := List.nodup_cons.1 h
    have hstep : setting ∈ (configuration.withSetting layer first).settings ↔
        (setting.said = first ∧ setting.source = layer) ∨
          setting ∈ configuration.settings ∧ setting.name ≠ first.name := by
      rw [← ResolvedSetting.eq_resolved_iff]
      exact ResolvedSetting.mem_insert_iff configuration.settings_ascending
    have hname : setting.said = first → setting.name = first.name := fun heq => heq ▸ rfl
    rw [List.foldl_cons, ih hrest, hstep]
    simp only [List.mem_cons, List.map_cons, not_or]
    constructor
    · rintro (⟨hmem, hsource⟩ | ⟨⟨heq, hsource⟩ | ⟨hold, hne⟩, hnot⟩)
      · exact .inl ⟨.inr hmem, hsource⟩
      · exact .inl ⟨.inl heq, hsource⟩
      · exact .inr ⟨hold, hne, hnot⟩
    · rintro (⟨heq | hmem, hsource⟩ | ⟨hold, hne, hnot⟩)
      · exact .inr ⟨.inl ⟨heq, hsource⟩, hname heq ▸ hnew⟩
      · exact .inl ⟨hmem, hsource⟩
      · exact .inr ⟨.inr ⟨hold, hne⟩, hnot⟩

/-- After a layer a setting is one of the layer, or an earlier one that the layer leaves
alone. -/
theorem mem_settings_withLayer_iff (configuration : Configuration) (layer : Layer)
    {setting : ResolvedSetting} :
    setting ∈ (configuration.withLayer layer).settings ↔
      (setting.said ∈ layer.settings ∧ setting.source = layer.identifier) ∨
        setting ∈ configuration.settings ∧ setting.name ∉ layer.settings.map (·.name) := by
  rw [withLayer, mem_settings_foldl_withSetting_iff layer.settings_nodup,
    settings_foldl_withAssertion]

/-! ## All layers -/

/-- Layers can be applied exactly when each of them fits. -/
theorem foldlM_apply_eq_ok_iff {layers : List Layer} {result : Configuration} :
    layers.foldlM apply configuration = .ok result ↔
      (∀ layer ∈ layers, layer.Fits configuration.flags) ∧
        layers.foldl withLayer configuration = result := by
  induction layers generalizing configuration with
  | nil => simp
  | cons layer rest ih =>
    simp only [List.foldlM_cons, bind_eq_ok_iff, apply_eq_ok_iff, ih, List.forall_mem_cons,
      List.foldl_cons]
    constructor
    · rintro ⟨_, ⟨hfits, rfl⟩, hrest, rfl⟩
      rw [flags_withLayer] at hrest
      exact ⟨⟨hfits, hrest⟩, rfl⟩
    · rintro ⟨⟨hfits, hrest⟩, rfl⟩
      exact ⟨_, ⟨hfits, rfl⟩, by rwa [flags_withLayer], rfl⟩

/-- Layers leave the flags as they are. -/
theorem flags_foldl_withLayer (configuration : Configuration) (layers : List Layer) :
    (layers.foldl withLayer configuration).flags = configuration.flags := by
  induction layers generalizing configuration with
  | nil => rfl
  | cons layer rest ih => rw [List.foldl_cons, ih, flags_withLayer]

/-- The flags of the defaults are those of the registry. -/
@[simp]
theorem flags_defaults (registry : Registry) : (defaults registry).flags = registry.names := by
  simp [flags, defaults, Registry.names, Function.comp_def, Entry.ofDefinition]

end Configuration

/-- Resolution succeeds exactly when every layer fits the registry, and then the layers are
applied to the defaults one after the other. -/
theorem Registry.resolve_eq_ok_iff {registry : Registry} {layerSet : LayerSet}
    {result : Configuration} :
    registry.resolve layerSet = .ok result ↔
      (∀ layer ∈ layerSet.layers, layer.Fits registry.names) ∧
        layerSet.layers.foldl Configuration.withLayer (Configuration.defaults registry) =
          result := by
  rw [resolve, Configuration.foldlM_apply_eq_ok_iff, Configuration.flags_defaults]

/-- The flags of a resolved configuration are those of the registry. -/
theorem Registry.flags_of_resolve {registry : Registry} {layerSet : LayerSet}
    {configuration : Configuration} (h : registry.resolve layerSet = .ok configuration) :
    configuration.flags = registry.names := by
  obtain ⟨-, rfl⟩ := resolve_eq_ok_iff.1 h
  rw [Configuration.flags_foldl_withLayer, Configuration.flags_defaults]

end LayeredFlags
