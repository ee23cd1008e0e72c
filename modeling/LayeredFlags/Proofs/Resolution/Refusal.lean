import LayeredFlags.LayerText.Directive
import LayeredFlags.Proofs.FirstError
import LayeredFlags.Proofs.Resolution.Layer
/-!
# When Resolution Fails

Resolution is refused for two kinds of directives: an assertion of a flag that the registry does
not have, and a setting of a constant that is a flag. No directive changes which flags there are,
so that each is judged by the registry alone, and resolution fails with the first one that is
refused. Layers above that one are not looked at.

## Main definitions

* `Layer.directives`: what a layer says, in the order in which it is applied;
* `Refuses`: a directive that does not fit, with its error;
* `Registry.StopsAt`: the layer of the first refused directive, by priority;
* `Registry.FailsFirst`: when resolution fails, and with which error.

## Main results

* `Configuration.apply_eq_error_iff`: when one layer is refused;
* `Registry.resolve_eq_error_iff`: when some layers are;
* `Registry.failsFirst_resolve`: resolution fails with the first fault, and only with that.
-/

namespace LayeredFlags

open LayerText

/-- What a layer says, its assertions before its settings. -/
def Layer.directives (layer : Layer) : List Directive :=
  layer.assertions.map .assert ++ layer.settings.map .set

/-- A directive of the named layer does not fit the known flags. -/
inductive Refuses (names : List String) (layer : String) : Directive → FlagError → Prop where
  /-- The asserted flag is not known. -/
  | unknownFlag {assertion : Assertion} (unknown : assertion.flag ∉ names) :
      Refuses names layer (.assert assertion) (.unknownFlag assertion.flag (some layer))
  /-- The constant that is set is a flag. -/
  | settingNamesFlag {setting : Setting} (known : setting.name ∈ names) :
      Refuses names layer (.set setting) (.settingNamesFlag layer setting.name)

/-- The layer is the lowest one of the set that does not fit the registry, and the error is that of
the first of its directives that is refused. -/
structure Registry.StopsAt (registry : Registry) (layerSet : LayerSet) (layer : Layer)
    (error : FlagError) : Prop where
  /-- The layer is one of the set. -/
  mem : layer ∈ layerSet.layers
  /-- All layers of lower priority fit. -/
  below : ∀ other ∈ layerSet.layers, other.priority < layer.priority → other.Fits registry.names
  /-- In the order of the directives, no earlier one of the layer is refused. -/
  first : FirstError (Refuses registry.names layer.identifier) layer.directives error

/-- When the resolution of a layer set fails, and with which error. -/
structure Registry.FailsFirst (registry : Registry) (layerSet : LayerSet) : Prop where
  /-- It fails exactly when some layer asserts a flag that the registry does not have, or sets a
  name that the registry has. -/
  fails_iff : (∃ error, registry.resolve layerSet = .error error) ↔
    ∃ layer ∈ layerSet.layers, (∃ assertion ∈ layer.assertions, assertion.flag ∉ registry.names) ∨
      ∃ setting ∈ layer.settings, setting.name ∈ registry.names
  /-- The error is that of the first refused directive by ascending priority. -/
  error_iff : ∀ error, registry.resolve layerSet = .error error ↔
    ∃ layer, registry.StopsAt layerSet layer error
  /-- The layers of higher priority do not matter: none of them, or any others, in their place give
  the same error, and so do layers that override everything else of the layer at fault. -/
  independent : ∀ layer error, registry.StopsAt layerSet layer error → ∀ other : LayerSet,
    (∀ low : Layer, low.priority ≤ layer.priority →
      (low ∈ other.layers ↔ low ∈ layerSet.layers)) →
        registry.resolve other = .error error

/-! ## Directives -/

section Refuses

variable {names : List String} {layer : String} {error : FlagError}

/-- An assertion is refused exactly when its flag is not known. -/
theorem refuses_assert_iff {assertion : Assertion} :
    Refuses names layer (.assert assertion) error ↔
      assertion.flag ∉ names ∧ error = .unknownFlag assertion.flag (some layer) := by
  constructor
  · intro h
    cases h with
    | unknownFlag unknown => exact ⟨unknown, rfl⟩
  · rintro ⟨unknown, rfl⟩
    exact .unknownFlag unknown

/-- A setting is refused exactly when its constant is a flag. -/
theorem refuses_set_iff {setting : Setting} :
    Refuses names layer (.set setting) error ↔
      setting.name ∈ names ∧ error = .settingNamesFlag layer setting.name := by
  constructor
  · intro h
    cases h with
    | settingNamesFlag known => exact ⟨known, rfl⟩
  · rintro ⟨known, rfl⟩
    exact .settingNamesFlag known

end Refuses

/-- Some directive of a layer is refused exactly when the layer asserts an unknown flag or sets a
constant that is a flag. -/
theorem Layer.exists_refuses_iff {layer : Layer} {names : List String} :
    (∃ directive ∈ layer.directives, ∃ error, Refuses names layer.identifier directive error) ↔
      (∃ assertion ∈ layer.assertions, assertion.flag ∉ names) ∨
        ∃ setting ∈ layer.settings, setting.name ∈ names := by
  simp only [directives, List.mem_append, List.mem_map, or_and_right, exists_or,
    exists_exists_and_eq_and, refuses_assert_iff, refuses_set_iff, exists_and_left, exists_eq,
    and_true]

/-- No directive of a layer is refused exactly when the layer fits. -/
theorem Layer.forall_not_refuses_iff {layer : Layer} {names : List String} :
    (∀ directive ∈ layer.directives, ∀ error, ¬ Refuses names layer.identifier directive error) ↔
      layer.Fits names := by
  have hrefused := @exists_refuses_iff layer names
  constructor
  · intro h
    have hnone : ¬ ∃ directive ∈ layer.directives, ∃ error,
        Refuses names layer.identifier directive error := by
      rintro ⟨directive, hmem, error, herror⟩
      exact h directive hmem error herror
    rw [hrefused, not_or] at hnone
    refine ⟨fun assertion hmem => ?_, fun setting hmem hname => hnone.2 ⟨setting, hmem, hname⟩⟩
    exact Decidable.not_not.1 fun hflag => hnone.1 ⟨assertion, hmem, hflag⟩
  · intro hfits directive hmem error herror
    rcases hrefused.1 ⟨directive, hmem, error, herror⟩ with ⟨a, ha, hflag⟩ | ⟨s, hs, hname⟩
    · exact hflag (hfits.known a ha)
    · exact hfits.noFlag s hs hname

/-! ## Layers -/

namespace Configuration

variable {configuration next : Configuration} {error : FlagError}

/-- An assertion fails exactly when it is refused. -/
theorem assert_eq_error_iff {layer : String} {assertion : Assertion} :
    configuration.assert layer assertion = .error error ↔
      Refuses configuration.flags layer (.assert assertion) error := by
  rw [refuses_assert_iff, assert]
  split
  · next known => simp [known]
  · next unknown => simp [unknown, eq_comm]

/-- A setting fails exactly when it is refused. -/
theorem set_eq_error_iff {layer : String} {setting : Setting} :
    configuration.set layer setting = .error error ↔
      Refuses configuration.flags layer (.set setting) error := by
  rw [refuses_set_iff, set]
  split
  · next known => simp [known, eq_comm]
  · next unknown => simp [unknown]

/-- An assertion that does not fail leaves the flags as they are. -/
theorem flags_of_assert {layer : String} {assertion : Assertion}
    (h : configuration.assert layer assertion = .ok next) : next.flags = configuration.flags := by
  unfold assert at h
  split at h
  · cases h
    exact map_flag_assertIn layer assertion configuration.entries
  · cases h

/-- A setting that does not fail leaves the flags as they are. -/
theorem flags_of_set {layer : String} {setting : Setting}
    (h : configuration.set layer setting = .ok next) : next.flags = configuration.flags := by
  unfold set at h
  split at h
  · cases h
  · cases h
    rfl

/-- A run of assertions fails with the error of the first one that is refused. -/
theorem foldlM_assert_eq_error_iff {layer : String} {assertions : List Assertion} :
    assertions.foldlM (fun c a => c.assert layer a) configuration = .error error ↔
      FirstError (fun a => Refuses configuration.flags layer (.assert a)) assertions error := by
  -- the assertions before it leave the flags as they are
  refine foldlM_eq_error_iff_firstError (·.flags = configuration.flags) rfl
    (fun state a next hstate hnext => (flags_of_assert hnext).trans hstate) ?_
  intro state a error hstate
  rw [assert_eq_error_iff, hstate]

/-- A run of settings fails with the error of the first one that is refused. -/
theorem foldlM_set_eq_error_iff {layer : String} {settings : List Setting} :
    settings.foldlM (fun c s => c.set layer s) configuration = .error error ↔
      FirstError (fun s => Refuses configuration.flags layer (.set s)) settings error := by
  refine foldlM_eq_error_iff_firstError (·.flags = configuration.flags) rfl
    (fun state s next hstate hnext => (flags_of_set hnext).trans hstate) ?_
  intro state s error hstate
  rw [set_eq_error_iff, hstate]

/-- A layer is refused with the error of the first of its directives that is refused. -/
theorem apply_eq_error_iff {layer : Layer} :
    configuration.apply layer = .error error ↔
      FirstError (Refuses configuration.flags layer.identifier) layer.directives error := by
  rw [apply, bind_eq_error_iff, Layer.directives, firstError_append_iff, firstError_map_iff,
    firstError_map_iff, ← foldlM_assert_eq_error_iff]
  refine or_congr_right ?_
  -- the settings are come to exactly when no assertion is refused
  rw [← forall_not_firstError_iff]
  simp only [firstError_map_iff, ← foldlM_assert_eq_error_iff]
  constructor
  · rintro ⟨asserted, hok, herror⟩
    obtain ⟨-, rfl⟩ := foldlM_assert_eq_ok_iff.1 hok
    rw [foldlM_set_eq_error_iff, flags_foldl_withAssertion] at herror
    refine ⟨fun other hother => ?_, herror⟩
    rw [hok] at hother
    cases hother
  · rintro ⟨hnone, herror⟩
    cases hok : layer.assertions.foldlM (fun c a => c.assert layer.identifier a) configuration with
    | error other => exact absurd hok (hnone other)
    | ok asserted =>
      obtain ⟨-, rfl⟩ := foldlM_assert_eq_ok_iff.1 hok
      refine ⟨_, rfl, ?_⟩
      rw [foldlM_set_eq_error_iff, flags_foldl_withAssertion]
      exact herror

end Configuration

/-- Resolution fails with the first error of the layers in their order. -/
theorem Registry.resolve_eq_error_iff {registry : Registry} {layerSet : LayerSet}
    {error : FlagError} :
    registry.resolve layerSet = .error error ↔
      FirstError
        (fun layer => FirstError (Refuses registry.names layer.identifier) layer.directives)
        layerSet.layers error := by
  refine foldlM_eq_error_iff_firstError (·.flags = registry.names)
    (Configuration.flags_defaults registry) ?_ ?_
  · intro state layer next hstate hnext
    obtain ⟨-, rfl⟩ := Configuration.apply_eq_ok_iff.1 hnext
    rw [Configuration.flags_withLayer, hstate]
  · intro state layer error hstate
    rw [Configuration.apply_eq_error_iff, hstate]

/-- A layer of a set stands behind exactly the layers of lower priority. -/
theorem LayerSet.mem_before_iff {layerSet : LayerSet} {before after : List Layer} {layer : Layer}
    (h : layerSet.layers = before ++ layer :: after) {other : Layer} :
    other ∈ before ↔ other ∈ layerSet.layers ∧ other.priority < layer.priority := by
  have hascending := layerSet.ascending
  rw [h, List.pairwise_append, List.pairwise_cons] at hascending
  obtain ⟨-, ⟨hafter, -⟩, hbefore⟩ := hascending
  constructor
  · intro hother
    exact ⟨h ▸ List.mem_append_left _ hother, hbefore other hother layer List.mem_cons_self⟩
  · rintro ⟨hmem, hlt⟩
    rw [h, List.mem_append, List.mem_cons] at hmem
    rcases hmem with hmem | rfl | hmem
    · exact hmem
    · exact absurd hlt Int64.lt_irrefl
    · exact absurd (Int64.lt_trans hlt (hafter other hmem)) Int64.lt_irrefl

/-- The first error of a layer set is that of the lowest layer that does not fit. -/
theorem Registry.firstError_iff_stopsAt {registry : Registry} {layerSet : LayerSet}
    {error : FlagError} :
    FirstError
        (fun layer => FirstError (Refuses registry.names layer.identifier) layer.directives)
        layerSet.layers error ↔
      ∃ layer, registry.StopsAt layerSet layer error := by
  constructor
  · rintro ⟨before, layer, after, heq, hbefore, hfirst⟩
    refine ⟨layer, heq ▸ by simp, fun other hmem hlt => ?_, hfirst⟩
    have hother := hbefore other ((LayerSet.mem_before_iff heq).2 ⟨hmem, hlt⟩)
    exact Layer.forall_not_refuses_iff.1 (forall_not_firstError_iff.1 hother)
  · rintro ⟨layer, hmem, hbelow, hfirst⟩
    obtain ⟨before, after, heq⟩ := List.append_of_mem hmem
    refine ⟨before, layer, after, heq, fun other hother => ?_, hfirst⟩
    obtain ⟨hother, hlt⟩ := (LayerSet.mem_before_iff heq).1 hother
    exact forall_not_firstError_iff.2 (Layer.forall_not_refuses_iff.2 (hbelow other hother hlt))

/-- The place where resolution stops depends on the layers up to that priority only. -/
theorem Registry.StopsAt.congr {registry : Registry} {layerSet other : LayerSet} {layer : Layer}
    {error : FlagError} (h : registry.StopsAt layerSet layer error)
    (hsame : ∀ low : Layer, low.priority ≤ layer.priority →
      (low ∈ other.layers ↔ low ∈ layerSet.layers)) :
    registry.StopsAt other layer error where
  mem := (hsame layer Int64.le_rfl).2 h.mem
  below low hmem hlt := h.below low ((hsame low (Int64.le_of_lt hlt)).1 hmem) hlt
  first := h.first

/-- Resolution fails exactly when some directive does not fit the registry, and the error is that of
the first such directive by priority, whatever the layers above it say. -/
theorem Registry.failsFirst_resolve (registry : Registry) (layerSet : LayerSet) :
    registry.FailsFirst layerSet where
  fails_iff := by
    simp only [resolve_eq_error_iff, exists_firstError_iff, Layer.exists_refuses_iff]
  error_iff error := by
    rw [resolve_eq_error_iff, firstError_iff_stopsAt]
  independent layer error hstops other hsame := by
    rw [resolve_eq_error_iff, firstError_iff_stopsAt]
    exact ⟨layer, hstops.congr hsame⟩

end LayeredFlags
