import LayeredFlags.Output.Report
import LayeredFlags.Proofs.Json.Writing
import LayeredFlags.Proofs.JsonForm.Contents
import LayeredFlags.Proofs.Text.Encoding
/-!
# Fingerprints Tell Configurations Apart

The bytes that are digested for a fingerprint can be read back to the configuration, so that two
configurations have the same bytes only if they are equal.

## Main results

- `Configuration.entries_canonical`, `Configuration.settings_canonical`: what the canonical form
  of a configuration tells.
- `Configuration.canonicalBytes_eq_iff`: different configurations are digested from different
  bytes.
-/

namespace LayeredFlags.Configuration

theorem entries_toJson (configuration : Configuration) :
    configuration.toJson.at? "entries" (Json.items? Entry.ofJson?) =
      some configuration.entries := by
  have hread := Json.items?_array_map Entry.ofJson?_toJson configuration.entries
  simpa [toJson, Json.at?] using hread

theorem settings_toJson (configuration : Configuration) :
    configuration.toJson.at? "settings" (Json.items? ResolvedSetting.ofJson?) =
      some configuration.settings := by
  have hread := Json.items?_array_map ResolvedSetting.ofJson?_toJson configuration.settings
  simpa [toJson, Json.at?] using hread

theorem entries_canonical (configuration : Configuration) :
    configuration.toJson.canonical.at? "entries" (Json.items? Entry.ofJson?) =
      some configuration.entries := by
  rw [Json.at?_canonical (Json.items?_canonical Entry.ofJson?_canonical), entries_toJson]

theorem settings_canonical (configuration : Configuration) :
    configuration.toJson.canonical.at? "settings" (Json.items? ResolvedSetting.ofJson?) =
      some configuration.settings := by
  rw [Json.at?_canonical (Json.items?_canonical ResolvedSetting.ofJson?_canonical),
    settings_toJson]

/-- Two configurations are digested from the same bytes only if they have the same flags in the
same order, with the same states, sources and overridden layers, and the same settings. -/
theorem canonicalBytes_eq_iff (first second : Configuration) :
    first.canonicalBytes = second.canonicalBytes ↔ first = second := by
  refine ⟨fun hbytes => ?_, congrArg canonicalBytes⟩
  -- bytes are decoded to a text, and the text is read as the canonical form
  have htexts : some first.toJson.canonicalText = some second.toJson.canonicalText := by
    rw [← Utf8.decode?_toUTF8, ← Utf8.decode?_toUTF8]
    exact congrArg Utf8.decode? hbytes
  have hforms : some first.toJson.canonical = some second.toJson.canonical := by
    rw [← Json.parse?_canonicalText, ← Json.parse?_canonicalText, Option.some.inj htexts]
  have hcanonical := Option.some.inj hforms
  have hentries : some first.entries = some second.entries := by
    rw [← entries_canonical, ← entries_canonical, hcanonical]
  have hsettings : some first.settings = some second.settings := by
    rw [← settings_canonical, ← settings_canonical, hcanonical]
  cases first with | mk entries settings _ _
  cases second with | mk otherEntries otherSettings _ _
  exact (mk.injEq ..).mpr ⟨Option.some.inj hentries, Option.some.inj hsettings⟩

end LayeredFlags.Configuration
