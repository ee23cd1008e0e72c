import LayeredFlags.Proofs.Construction
import LayeredFlags.Proofs.LayerText.Writable
import LayeredFlags.Proofs.Resolution.Precedence
import LayeredFlags.Proofs.Validation.Gate
/-!
# Configurations that a Header Can Hold

A header is read back as it was written if every name in it is an identifier and every value
can stand on a line. This file shows that a configuration has that property if its registry
comes from a catalog and its layers come from texts that were read.

## Main definitions

* `Layer.OfText`: the layer was built from a text that was read;
* `Generated`: a configuration that was resolved from a catalog and from such layers, and that
  has passed the gate;
* `Configuration.Writable`: all names and values of a configuration can be written.

## Main results

* `Layer.OfText.writable`: the settings of such a layer can be written;
* `Generated.writable`: a generated configuration can be written.
-/

namespace LayeredFlags

/-- The layer was built from a layer text that was read. -/
def Layer.OfText (layer : Layer) : Prop :=
  ∃ text document identifier priority, LayerText.parse text = .ok document ∧
    document.toLayer identifier priority = .ok layer

/-- The valid configuration was resolved from the registry of a catalog and from layers that
were built from texts. -/
structure Generated (registry : Registry) (layerSet : LayerSet) (valid : ValidConfiguration) :
    Prop where
  /-- The registry comes from a catalog. -/
  catalogued : ∃ catalog : Catalog, catalog.toRegistry = .ok registry
  /-- The layers come from texts. -/
  ofText : ∀ layer ∈ layerSet.layers, layer.OfText
  /-- The configuration is what they resolve to, and it has passed the gate. -/
  resolved : ∃ configuration, registry.resolve layerSet = .ok configuration ∧
    ValidConfiguration.ofConfiguration configuration registry = .ok valid

/-- All names and values of the configuration can be written, and no setting is mistaken for
a flag. -/
structure Configuration.Writable (configuration : Configuration) : Prop where
  /-- The flags have identifiers as names. -/
  flag_valid : ∀ entry ∈ configuration.entries, FlagName.isValid entry.flag = true
  /-- The settings can be written. -/
  setting_writable : ∀ setting ∈ configuration.settings, setting.said.Writable
  /-- No setting names a flag. -/
  noFlag : ∀ setting ∈ configuration.settings, setting.name ∉ configuration.flags

/-- The settings of a layer that was built from a text can be written. -/
theorem Layer.OfText.writable {layer : Layer} (h : layer.OfText) {setting : Setting}
    (hmem : setting ∈ layer.settings) : setting.Writable := by
  obtain ⟨text, document, identifier, priority, hparse, hlayer⟩ := h
  -- merging repeats only leaves settings out, so each comes from the text
  obtain ⟨-, -, -, -, hsettings⟩ := Layer.build_eq_ok_iff.1 hlayer
  rcases mem_of_mergeRepeats_eq_ok hsettings hmem with hkept | hdocument
  · cases hkept
  · exact LayerText.writable_of_parse hparse hdocument

/-- A configuration resolved from a catalog and from texts can be written. -/
theorem Configuration.writable_of_resolve {registry : Registry} {layerSet : LayerSet}
    {configuration : Configuration} {catalog : Catalog}
    (hcatalog : catalog.toRegistry = .ok registry)
    (htext : ∀ layer ∈ layerSet.layers, layer.OfText)
    (h : registry.resolve layerSet = .ok configuration) : configuration.Writable := by
  have hflags := Registry.flags_of_resolve h
  refine
    { flag_valid := fun entry hmem => ?_
      setting_writable := fun setting hmem => ?_
      noFlag := fun setting hmem => hflags ▸ Registry.not_mem_names_of_resolve h hmem }
  · have hname : entry.flag ∈ configuration.flags := List.mem_map_of_mem hmem
    exact Catalog.isValid_of_toRegistry hcatalog (hflags ▸ hname)
  · obtain ⟨layer, hlayer, hsaid⟩ := Registry.exists_setting_of_resolve h hmem
    exact (htext layer hlayer).writable hsaid

/-- A generated configuration can be written. -/
theorem Generated.writable {registry : Registry} {layerSet : LayerSet}
    {valid : ValidConfiguration} (h : Generated registry layerSet valid) :
    valid.configuration.Writable := by
  obtain ⟨catalog, hcatalog⟩ := h.catalogued
  obtain ⟨configuration, hresolve, hgate⟩ := h.resolved
  obtain ⟨-, rfl⟩ := ValidConfiguration.ofConfiguration_eq_ok_iff.1 hgate
  exact Configuration.writable_of_resolve hcatalog h.ofText hresolve

/-! ## A small stack -/

/-- A catalog of two flags. -/
def quietCatalog : Catalog :=
  { flags :=
      [ { name := "AUDIT", default := .disabled, description := "Record every call" },
        { name := "LOG", default := .enabled, requires := ["AUDIT"] } ] }

/-- The registry of the catalog. -/
def quietRegistry : Registry :=
  { definitions := quietCatalog.flags.map CatalogFlag.toDefinition
    names_nodup := by decide
    targets_mem := by decide }

/-- One layer with a flag and a constant whose value looks like a comment. -/
def quietLayers : LayerSet :=
  { layers :=
      [ { identifier := "site", priority := 5
          assertions := [⟨"AUDIT", .enabled⟩], settings := [⟨"GREETING", "\"/* hello */\""⟩]
          legal := by decide, assertions_nodup := by decide, settings_nodup := by decide } ]
    identifiers_nodup := by decide
    ascending := by decide }

/-- What the layer makes of the registry. -/
def quietConfiguration : ValidConfiguration :=
  { configuration := quietLayers.layers.foldl Configuration.withLayer (.defaults quietRegistry)
    passed := ⟨quietRegistry, rfl⟩ }

/-- The layer comes from a text with comments. -/
theorem ofText_quietLayers : ∀ layer ∈ quietLayers.layers, layer.OfText := by
  intro layer hlayer
  obtain rfl := List.mem_singleton.1 hlayer
  exact ⟨"ENABLE AUDIT // for now\n#define GREETING \"/* hello */\" /* said once */\n", _,
    "site", 5, rfl, rfl⟩

/-- The small stack is a generated one. -/
theorem generated_quiet : Generated quietRegistry quietLayers quietConfiguration :=
  { catalogued := ⟨quietCatalog, rfl⟩
    ofText := ofText_quietLayers
    resolved := ⟨_, rfl, rfl⟩ }

end LayeredFlags
