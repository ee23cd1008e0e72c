import LayeredFlags.Output.Report
import LayeredFlags.Proofs.Json.Writing
import LayeredFlags.Proofs.JsonForm.Contents
import LayeredFlags.Proofs.Validation.Gate
/-!
# JSON Outputs Are Faithful

A listing and a report are texts of one JSON value each, and that value tells all of what they
were written from, whatever the names, values and sources consist of.

## Main definitions

- `ValidConfiguration.ListedIn`: what a listing tells of a configuration.
- `Configuration.ReportedIn`: what a report tells of a configuration, its violations and the
  sources of its layers.

## Main results

- `json_outputs_faithful`: every listing and every report has one meaning, which tells this.
-/

namespace LayeredFlags

open JsonCodec

/-- A JSON value lists the flags and the settings of a configuration that has passed the gate. -/
structure ValidConfiguration.ListedIn (valid : ValidConfiguration) (json : Json) : Prop where
  /-- The flags are listed with their states and sources, one for each entry, in order. -/
  flags : json.at? "flags" (Json.items? Entry.ofListed?) =
    some (valid.configuration.entries.map fun entry => (entry.flag, entry.state, entry.source))
  /-- The order is that of a registry that the configuration has passed the gate of. -/
  registry_order : ∃ registry, valid.configuration.objection? registry = none ∧
    registry.names = valid.configuration.entries.map (·.flag)
  /-- The settings are listed with their values and sources, in order. -/
  settings : json.at? "settings" (Json.items? ResolvedSetting.ofJson?) =
    some valid.configuration.settings

/-- A JSON value reports on a configuration with some violations and some sources of layers. -/
structure Configuration.ReportedIn (configuration : Configuration) (violations : List Violation)
    (sources : List LayerSource) (json : Json) : Prop where
  /-- The entries are reported in order. One without a list of overridden layers has none. -/
  entries : json.at? "entries" (Json.items? Entry.ofJson?) = some configuration.entries
  /-- The settings are reported in order. -/
  settings : json.at? "settings" (Json.items? ResolvedSetting.ofJson?) =
    some configuration.settings
  /-- The configuration is said to be valid exactly when there are no violations. -/
  valid : ∃ value, json.at? "valid" Json.truth? = some value ∧ (value = true ↔ violations = [])
  /-- The violations are reported in order. -/
  violations : json.at? "violations" (Json.items? Violation.ofJson?) = some violations
  /-- The sources of the layers are reported in order. -/
  sources : json.at? "sources" (Json.items? LayerSource.ofJson?) = some sources

theorem ValidConfiguration.listedIn_listed (valid : ValidConfiguration) :
    valid.ListedIn valid.configuration.listed := by
  have hflags := Json.items?_array_map Entry.ofListed?_listed valid.configuration.entries
  have hsettings :=
    Json.items?_array_map ResolvedSetting.ofJson?_toJson valid.configuration.settings
  obtain ⟨registry, hpassed⟩ := valid.passed
  refine
    { flags := by simpa [Configuration.listed, Json.at?] using hflags
      registry_order := ⟨registry, hpassed, ?_⟩
      settings := by simpa [Configuration.listed, Json.at?] using hsettings }
  exact (Configuration.objection?_eq_none_iff.1 hpassed).1.symm

theorem Configuration.reportedIn_toJson (createdAt : String) (configuration : Configuration)
    (violations : List Violation) (sources : List LayerSource) :
    configuration.ReportedIn violations sources
      (Report.ofConfiguration createdAt configuration violations sources).toJson := by
  have hentries := Json.items?_array_map Entry.ofJson?_toJson configuration.entries
  have hsettings := Json.items?_array_map ResolvedSetting.ofJson?_toJson configuration.settings
  have hviolations := Json.items?_encode Violation.ofJson?_encode violations
  have hsources := Json.items?_encode LayerSource.ofJson?_encode sources
  exact
    { entries := by simpa [Report.toJson, Report.ofConfiguration, Json.at?] using hentries
      settings := by simpa [Report.toJson, Report.ofConfiguration, Json.at?] using hsettings
      valid := ⟨violations.isEmpty, by
        simp [Report.toJson, Report.ofConfiguration, Report.isValid, Json.at?, Json.truth?]⟩
      violations := by simpa [Report.toJson, Report.ofConfiguration, Json.at?] using hviolations
      sources := by simpa [Report.toJson, Report.ofConfiguration, Json.at?] using hsources }

/-- Whatever text is in a configuration, its listing and the reports on it follow the grammar of
JSON and have one value each, which tells all that was to be said. -/
theorem json_outputs_faithful :
    (∀ valid : ValidConfiguration, ∃ json,
      Json.Denotes valid.listing json ∧ valid.ListedIn json) ∧
    ∀ createdAt configuration violations sources, ∃ json,
      Json.Denotes
        (Report.ofConfiguration createdAt configuration violations sources).toJson.pretty json ∧
      configuration.ReportedIn violations sources json :=
  ⟨fun valid => ⟨_, (Json.isText_pretty _).denotes, valid.listedIn_listed⟩,
    fun createdAt configuration violations sources => ⟨_, (Json.isText_pretty _).denotes,
      configuration.reportedIn_toJson createdAt violations sources⟩⟩

end LayeredFlags
