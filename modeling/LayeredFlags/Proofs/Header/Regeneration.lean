import LayeredFlags.Proofs.Header.Plain
import Mathlib.Data.List.Sort
/-!
# Regeneration from a Header

A header is a layer text itself. The layer that it makes, resolved alone over the same
registry, gives the configuration that the header was written from, apart from the sources,
and the header is written again as it was.

## Main definitions

* `Configuration.constants`: what a configuration says of its constants.

## Main results

* `exists_layer_of_directives`: the layer that a header makes says what the header says;
* `resolve_alone`: such a layer alone resolves to the same flags and constants;
* `ValidConfiguration.header_congr`: only these are written out;
* `Generated.regeneration`: the header of a generated configuration is a fixed point.
-/

namespace LayeredFlags

open LayerText

/-- What a configuration says of its constants, without the sources. -/
def Configuration.constants (configuration : Configuration) : List Setting :=
  configuration.settings.map (·.said)

/-! ## The layer of a header -/

/-- A text that says assertions and then settings makes just these. -/
theorem LayerText.Document.parts_of_directives {document : Document}
    {assertions : List Assertion} {settings : List Setting}
    (h : document.lines.map (·.directive) = assertions.map .assert ++ settings.map .set) :
    document.assertions = assertions ∧ document.settings = settings := by
  have hassertions : document.assertions =
      (document.lines.map (·.directive)).filterMap Directive.assertion? := by
    rw [List.filterMap_map]
    rfl
  have hsettings : document.settings =
      (document.lines.map (·.directive)).filterMap Directive.setting? := by
    rw [List.filterMap_map]
    rfl
  rw [hassertions, hsettings, h]
  constructor <;>
    simp [List.filterMap_append, List.filterMap_map, Function.comp_def, Directive.assertion?,
      Directive.setting?]

/-- The names of the constants are distinct. -/
theorem Configuration.nodup_constants (configuration : Configuration) :
    (configuration.constants.map (·.name)).Nodup := by
  have hname : configuration.constants.map (·.name) =
      configuration.settings.map (·.name) := by
    rw [constants, List.map_map]
    rfl
  rw [hname]
  exact configuration.nodup_names_settings

/-- A text that says what a configuration says makes a layer that says it too. -/
theorem exists_layer_of_directives {configuration : Configuration} {document : Document}
    (h : document.lines.map (·.directive) = configuration.directives) {identifier : String}
    (legal : LegalIdentifier identifier) (priority : Int64) :
    ∃ layer, document.toLayer identifier priority = .ok layer ∧
      layer.assertions = configuration.assertions ∧
      layer.settings = configuration.constants := by
  obtain ⟨hassertions, hsettings⟩ := Document.parts_of_directives h
  have hflags : (configuration.assertions.map (·.flag)).Nodup := by
    rw [Configuration.map_flag_assertions]
    exact configuration.flags_nodup
  refine ⟨{ identifier, priority, legal
            assertions := configuration.assertions
            settings := configuration.constants
            assertions_nodup := hflags
            settings_nodup := configuration.nodup_constants }, ?_, rfl, rfl⟩
  -- nothing is said twice, so merging keeps everything
  refine Layer.build_eq_ok_iff.2 ⟨legal, rfl, rfl, ?_, ?_⟩
  · rw [hassertions]
    exact mergeRepeats_eq_ok_of_nodup hflags
  · rw [hsettings]
    exact mergeRepeats_eq_ok_of_nodup configuration.nodup_constants

/-! ## The layer alone -/

/-- A layer that asserts every flag of a registry decides all of them. -/
theorem Configuration.assertions_withLayer {registry : Registry} {layer : Layer}
    (h : layer.assertions.map (·.flag) = registry.names) :
    ((defaults registry).withLayer layer).assertions = layer.assertions := by
  have hlength : layer.assertions.length = registry.definitions.length := by
    simpa [Registry.names] using congrArg List.length h
  have hentries : ((defaults registry).withLayer layer).entries =
      registry.definitions.map fun definition =>
        (Entry.ofDefinition definition).applyLayer layer := by
    rw [entries_withLayer, defaults, List.map_map]
    rfl
  rw [assertions, hentries, List.map_map]
  -- definition and assertion at one place speak of the same flag
  refine List.ext_getElem (by simp [hlength]) fun i hi hi' => ?_
  have hi'' : i < registry.definitions.length := hlength ▸ hi'
  have hflag : (layer.assertions[i]).flag = (registry.definitions[i]).name := by
    have hget := List.getElem_of_eq h (by simpa using hi')
    simpa [Registry.names] using hget
  have hstate : layer.stateOf? (layer.assertions[i]).flag = some (layer.assertions[i]).state :=
    Layer.stateOf?_eq_some_iff.2 (List.getElem_mem hi')
  simp [Entry.applyLayer, Entry.ofDefinition, ← hflag, hstate, Entry.assert]

/-- A layer that sets constants in ascending order is all that is left of it. -/
theorem Configuration.constants_withLayer {registry : Registry} {layer : Layer}
    (h : layer.settings.Pairwise (·.name < ·.name)) :
    ((defaults registry).withLayer layer).constants = layer.settings := by
  have hirrefl : Std.Irrefl fun a b : Setting => a.name < b.name :=
    ⟨fun a => String.lt_irrefl a.name⟩
  have hantisymm : Std.Antisymm fun a b : Setting => a.name < b.name :=
    ⟨fun a b hab hba => absurd (String.lt_trans hab hba) (String.lt_irrefl _)⟩
  -- two lists in strictly ascending order are equal if they have the same members
  refine List.Pairwise.eq_of_mem_iff
    (List.pairwise_map.2 ((defaults registry).withLayer layer).settings_ascending) h
    fun setting => ?_
  have hnone : (defaults registry).settings = [] := rfl
  simp only [constants, List.mem_map, mem_settings_withLayer_iff, hnone, List.not_mem_nil,
    false_and, or_false]
  constructor
  · rintro ⟨resolved, ⟨hsaid, -⟩, rfl⟩
    exact hsaid
  · intro hmem
    exact ⟨⟨setting.name, setting.value, layer.identifier⟩, ⟨hmem, rfl⟩, rfl⟩

/-- A layer that says what a writable configuration says, resolved alone over the registry of
its flags, gives the same flags and constants. -/
theorem resolve_alone {registry : Registry} {configuration : Configuration} {layer : Layer}
    {alone : LayerSet} (hwritable : configuration.Writable)
    (hflags : configuration.flags = registry.names)
    (hassertions : layer.assertions = configuration.assertions)
    (hsettings : layer.settings = configuration.constants) (halone : alone.layers = [layer]) :
    ∃ again, registry.resolve alone = .ok again ∧
      again.assertions = configuration.assertions ∧
      again.constants = configuration.constants := by
  have hnames : layer.assertions.map (·.flag) = registry.names := by
    rw [hassertions, Configuration.map_flag_assertions, hflags]
  have hascending : layer.settings.Pairwise (·.name < ·.name) := by
    rw [hsettings]
    exact List.pairwise_map.2 configuration.settings_ascending
  have hfits : layer.Fits registry.names :=
    { known := fun assertion hmem => hnames ▸ List.mem_map_of_mem hmem
      noFlag := fun setting hmem => by
        rw [hsettings] at hmem
        obtain ⟨resolved, hresolved, rfl⟩ := List.mem_map.1 hmem
        exact hflags ▸ hwritable.noFlag resolved hresolved }
  refine ⟨(Configuration.defaults registry).withLayer layer, ?_, ?_, ?_⟩
  · rw [Registry.resolve_eq_ok_iff, halone]
    exact ⟨by simpa using hfits, rfl⟩
  · rw [Configuration.assertions_withLayer hnames, hassertions]
  · rw [Configuration.constants_withLayer hascending, hsettings]

/-! ## The header again -/

/-- A header holds nothing but the flags and the constants. -/
theorem ValidConfiguration.header_congr {valid other : ValidConfiguration}
    (hflags : valid.configuration.assertions = other.configuration.assertions)
    (hconstants : valid.configuration.constants = other.configuration.constants) :
    valid.header = other.header := by
  have hflagLines : ∀ entries : List Entry, entries.map Entry.headerLine =
      (entries.map fun entry => (⟨entry.flag, entry.state⟩ : Assertion)).map
        fun assertion => s!"{assertion.state.directive} {assertion.flag}\n" := by
    intro entries
    rw [List.map_map]
    rfl
  have hsettingLines : ∀ settings : List ResolvedSetting,
      settings.map ResolvedSetting.headerLine =
        (settings.map (·.said)).map
          fun setting => s!"#define {setting.name} {setting.value}\n" := by
    intro settings
    rw [List.map_map]
    rfl
  have hempty : valid.configuration.settings.isEmpty =
      other.configuration.settings.isEmpty := by
    simpa [Configuration.constants] using congrArg List.isEmpty hconstants
  unfold Configuration.assertions at hflags
  unfold Configuration.constants at hconstants
  simp only [header, Configuration.settingLines, hflagLines, hsettingLines, hflags, hconstants,
    hempty]

/-- The header of a generated configuration says every flag of the registry in order and then
every setting. The layer that it makes, under any identifier and priority, resolves alone to
the same flags and constants, passes the gate, and gives the same header again. -/
theorem Generated.regeneration {registry : Registry} {layerSet : LayerSet}
    {valid : ValidConfiguration} (h : Generated registry layerSet valid) :
    valid.configuration.flags = registry.names ∧
    ∃ document, parse valid.header = .ok document ∧
      document.lines.map (·.directive) =
        (valid.configuration.entries.map fun entry => .assert ⟨entry.flag, entry.state⟩) ++
          valid.configuration.settings.map (fun setting => .set ⟨setting.name, setting.value⟩) ∧
      ∀ identifier, LegalIdentifier identifier → ∀ priority,
        ∃ layer alone again validAgain,
          document.toLayer identifier priority = .ok layer ∧
          LayerSet.ofLayers [layer] = .ok alone ∧
          registry.resolve alone = .ok again ∧
          again.assertions = valid.configuration.assertions ∧
          again.constants = valid.configuration.constants ∧
          ValidConfiguration.ofConfiguration again registry = .ok validAgain ∧
          validAgain.header = valid.header := by
  have hwritable := h.writable
  obtain ⟨configuration, hresolve, hgate⟩ := h.resolved
  obtain ⟨hpassed, rfl⟩ := ValidConfiguration.ofConfiguration_eq_ok_iff.1 hgate
  have hflags := Registry.flags_of_resolve hresolve
  obtain ⟨document, hparse, hdirectives⟩ := exists_parse_iff.2 (says_header hwritable)
  refine ⟨hflags, document, hparse, ?_, ?_⟩
  · rw [hdirectives, Configuration.directives, Configuration.assertions, List.map_map,
      List.map_map]
    rfl
  · intro identifier hlegal priority
    -- header to layer, layer to configuration, and configuration to header again
    obtain ⟨layer, hlayer, hassertions, hsettings⟩ :=
      exists_layer_of_directives hdirectives hlegal priority
    obtain ⟨alone, halone, hlayers⟩ := LayerSet.ofLayers_singleton layer
    obtain ⟨again, hagain, hsame, hconstants⟩ :=
      resolve_alone hwritable hflags hassertions hsettings hlayers
    have hobjection := (Configuration.objection?_eq_none_congr hsame).2 hpassed
    refine ⟨layer, alone, again, ⟨again, registry, hobjection⟩, hlayer, halone, hagain, hsame,
      hconstants, ?_, ValidConfiguration.header_congr hsame hconstants⟩
    exact ValidConfiguration.ofConfiguration_eq_ok_iff.2 ⟨hobjection, rfl⟩

/-- A value that looks like a comment comes back as it was. -/
theorem regeneration_quiet :
    quietConfiguration.header =
      "#define AUDIT\n#define LOG\n\n#define GREETING \"/* hello */\"\n" ∧
    ∃ document, parse quietConfiguration.header = .ok document ∧
      document.lines.map (·.directive) =
        [.assert ⟨"AUDIT", .enabled⟩, .assert ⟨"LOG", .enabled⟩,
          .set ⟨"GREETING", "\"/* hello */\""⟩] ∧
      ∃ layer alone again validAgain,
        document.toLayer "again" 5 = .ok layer ∧
        LayerSet.ofLayers [layer] = .ok alone ∧
        quietRegistry.resolve alone = .ok again ∧
        ValidConfiguration.ofConfiguration again quietRegistry = .ok validAgain ∧
        validAgain.header = quietConfiguration.header := by
  obtain ⟨-, document, hparse, hdirectives, hagain⟩ := generated_quiet.regeneration
  obtain ⟨layer, alone, again, validAgain, hlayer, halone, hresolve, -, -, hgate, hheader⟩ :=
    hagain "again" (by decide) 5
  exact ⟨rfl, document, hparse, hdirectives.trans rfl, layer, alone, again, validAgain, hlayer,
    halone, hresolve, hgate, hheader⟩

end LayeredFlags
