import LayeredFlags.Proofs.Header.Plain
import LayeredFlags.Proofs.Repeats
/-!
# Declared Names

A name is either a flag or a constant, and it is declared once. Neither a layer nor a layer set
compares what it asserts with what it sets; it is the registry that keeps the two apart, because
a layer fits it only if the flags that it asserts are known and the constants that it sets are
not. The plain header of what is resolved then has one `#define` or `#undef` line for each name.

## Main definitions

* `declared?`: the name that a line defines or undefines;
* `ValueOfText`: the value stands in a layer text that is read;
* `Configuration.DeclaresOnce`: no name is declared twice by the configuration and its header.

## Main results

* `declared?_writtenLine`: a written line declares its name;
* `ValidConfiguration.declared_header`: a header declares the flags and then the constants;
* `Registry.exists_error_of_clash`: a name that layers assert and set ends the resolution;
* `Registry.declaresOnce_of_resolve`: what is resolved declares every name once;
* `Registry.no_name_twice`: the two together, for every registry and every layer set.
-/

namespace LayeredFlags

open Text LayerText

/-! ## The subject of a line -/

/-- The name that a line of a header defines or undefines, if it does either: the word behind
the keyword. -/
def declared? (line : List Char) : Option String :=
  let (keyword, rest) := nextWord line
  if keyword = "#define".toList ∨ keyword = "#undef".toList then
    some (String.ofList (nextWord rest).1)
  else none

/-- A written line declares its name, whatever follows the name. -/
theorem declared?_writtenLine (state : FlagState) {name rest : List Char}
    (hname : FlagName.isIdentifier name = true)
    (hrest : ∀ c, rest.head? = some c → isBlank c = true) :
    declared? (writtenLine state name rest) = some (String.ofList name) := by
  cases state with
  | enabled =>
    have hkeyword : nextWord ("#define".toList ++ ' ' :: (name ++ rest)) =
        ("#define".toList, ' ' :: (name ++ rest)) := nextWord_append_space (by decide) rfl _
    have hnext : nextWord (' ' :: (name ++ rest)) = (name, rest) :=
      @nextWord_append_name name rest [' '] rfl hname hrest
    change declared? ("#define".toList ++ ' ' :: (name ++ rest)) = _
    simp only [declared?, hkeyword, hnext, true_or, if_true]
  | disabled =>
    -- the keyword is filled up with a space, so that two of them stand before the name
    have hkeyword : nextWord ("#undef".toList ++ ' ' :: ' ' :: (name ++ rest)) =
        ("#undef".toList, ' ' :: ' ' :: (name ++ rest)) := nextWord_append_space (by decide) rfl _
    have hnext : nextWord (' ' :: ' ' :: (name ++ rest)) = (name, rest) :=
      @nextWord_append_name name rest [' ', ' '] rfl hname hrest
    change declared? ("#undef".toList ++ ' ' :: ' ' :: (name ++ rest)) = _
    simp only [declared?, hkeyword, hnext, or_true, if_true]

/-- A header declares the flags and then the constants, each on a line of its own. -/
theorem ValidConfiguration.declared_header {valid : ValidConfiguration}
    (h : valid.configuration.Writable) :
    (lines valid.header.toList).filterMap declared? =
      valid.configuration.flags ++ valid.configuration.settings.map (·.name) := by
  have hflag : ∀ entry ∈ valid.configuration.entries,
      (lines entry.headerLine.toList).filterMap declared? = [entry.flag] := by
    intro entry hmem
    have hname := h.flag_valid entry hmem
    have hdeclared := @declared?_writtenLine entry.state entry.flag.toList [] hname (by simp)
    rw [entry.lines_headerLine hname, List.filterMap_cons_some hdeclared, String.ofList_toList,
      List.filterMap_nil]
  have hsetting : ∀ setting ∈ valid.configuration.settings,
      (lines setting.headerLine.toList).filterMap declared? = [setting.name] := by
    intro setting hmem
    have hwritable := h.setting_writable setting hmem
    have hdeclared := @declared?_writtenLine .enabled setting.name.toList
      (' ' :: setting.value.toList) hwritable.name_valid (by rintro c ⟨⟩; rfl)
    rw [setting.lines_headerLine hwritable, List.filterMap_cons_some hdeclared,
      String.ofList_toList, List.filterMap_nil]
  -- the blank line between flags and constants declares nothing
  have hblank : List.filterMap declared?
      (if valid.configuration.settings = [] then [] else [[]]) = [] := by
    split <;> rfl
  rw [valid.lines_header, Configuration.lines_settingLines, List.filterMap_append,
    List.filterMap_append, hblank, List.nil_append, List.filterMap_flatMap,
    List.filterMap_flatMap, List.flatMap_congr hflag, List.flatMap_congr hsetting]
  rw [Configuration.flags, List.map_eq_flatMap, List.map_eq_flatMap]

/-! ## Flags and constants -/

/-- Layers that assert a name and set it do not fit any registry. -/
theorem Registry.exists_error_of_clash {registry : Registry} {layerSet : LayerSet}
    {name : String}
    (hasserted : ∃ layer ∈ layerSet.layers, name ∈ layer.assertions.map (·.flag))
    (hset : ∃ layer ∈ layerSet.layers, name ∈ layer.settings.map (·.name)) :
    ∃ error, registry.resolve layerSet = .error error := by
  cases hresolve : registry.resolve layerSet with
  | error error => exact ⟨error, rfl⟩
  | ok configuration =>
    obtain ⟨hfits, -⟩ := resolve_eq_ok_iff.1 hresolve
    obtain ⟨asserter, hasserter, hname⟩ := hasserted
    obtain ⟨assertion, hassertion, rfl⟩ := List.mem_map.1 hname
    obtain ⟨setter, hsetter, hname⟩ := hset
    obtain ⟨setting, hsetting, heq⟩ := List.mem_map.1 hname
    -- the flag is known because it is asserted, and so it may not be set
    have hknown := (hfits asserter hasserter).known assertion hassertion
    exact absurd (heq ▸ hknown) ((hfits setter hsetter).noFlag setting hsetting)

/-- The layer of a text asserts and sets the names that the text does. -/
theorem LayerText.Document.mem_names_of_toLayer {document : Document} {identifier : String}
    {priority : Int64} {layer : Layer} (h : document.toLayer identifier priority = .ok layer)
    (name : String) :
    (name ∈ layer.assertions.map (·.flag) ↔ name ∈ document.assertions.map (·.flag)) ∧
      (name ∈ layer.settings.map (·.name) ↔ name ∈ document.settings.map (·.name)) := by
  obtain ⟨-, -, -, hassertions, hsettings⟩ := Layer.build_eq_ok_iff.1 h
  simp only [List.mem_map, mem_mergeRepeats_iff hassertions, mem_mergeRepeats_iff hsettings,
    List.not_mem_nil, false_or, and_self]

/-! ## Every name once -/

/-- The value stands in some layer text that is read. -/
def ValueOfText (value : String) : Prop :=
  ∃ text document setting, LayerText.parse text = .ok document ∧
    setting ∈ document.settings ∧ setting.value = value

/-- A value that stands in a text can be written for any constant. -/
theorem ResolvedSetting.writable_of_valueOfText {setting : ResolvedSetting}
    (hname : FlagName.isValid setting.name = true) (hvalue : ValueOfText setting.value) :
    setting.said.Writable := by
  obtain ⟨name, value, layer⟩ := setting
  obtain ⟨text, document, source, hparse, hsource, rfl⟩ := hvalue
  -- nothing but the name is particular to the constant that the text sets
  have hwritable := LayerText.writable_of_parse hparse hsource
  exact { hwritable with name_valid := hname }

/-- The names of all flags and of all constants. -/
def Configuration.names (configuration : Configuration) : List String :=
  configuration.flags ++ configuration.settings.map (·.name)

/-- No name is declared twice by the configuration, whose flags are to be those of the registry,
and none by its plain header if that can be written. -/
structure Configuration.DeclaresOnce (registry : Registry) (configuration : Configuration) :
    Prop where
  /-- The flags are the registered ones. -/
  flags_eq : configuration.flags = registry.names
  /-- No two flags have one name. -/
  flags_nodup : configuration.flags.Nodup
  /-- The names of the constants ascend strictly. -/
  ascending : (configuration.settings.map (·.name)).Pairwise (· < ·)
  /-- No two constants have one name. -/
  constants_nodup : (configuration.settings.map (·.name)).Nodup
  /-- No constant has the name of a registered flag. -/
  noFlag : ∀ setting ∈ configuration.settings, setting.name ∉ registry.names
  /-- If all names are identifiers and all values come from texts, then the header, whichever
  registry has passed it, has one line for each name. -/
  once : (∀ name ∈ configuration.names, FlagName.isValid name = true) →
    (∀ setting ∈ configuration.settings, ValueOfText setting.value) →
    ∀ judge valid, ValidConfiguration.ofConfiguration configuration judge = .ok valid →
      ∀ name ∈ configuration.names,
        (lines valid.header.toList).countP (fun line => declared? line = some name) = 1

/-- What is resolved declares every name once. -/
theorem Registry.declaresOnce_of_resolve {registry : Registry} {layerSet : LayerSet}
    {configuration : Configuration} (h : registry.resolve layerSet = .ok configuration) :
    configuration.DeclaresOnce registry := by
  have hflags := flags_of_resolve h
  have hascending : (configuration.settings.map (·.name)).Pairwise (· < ·) :=
    List.pairwise_map.2 configuration.settings_ascending
  have hconstants := configuration.nodup_names_settings
  have hnoFlag : ∀ setting ∈ configuration.settings, setting.name ∉ registry.names :=
    fun setting hmem => not_mem_names_of_resolve h hmem
  have hnames : configuration.names.Nodup := by
    refine List.nodup_append.2 ⟨configuration.flags_nodup, hconstants, ?_⟩
    rintro flag hflag name hname rfl
    obtain ⟨setting, hsetting, rfl⟩ := List.mem_map.1 hname
    exact hnoFlag setting hsetting (hflags ▸ hflag)
  refine
    { flags_eq := hflags
      flags_nodup := configuration.flags_nodup
      ascending := hascending
      constants_nodup := hconstants
      noFlag := hnoFlag
      once := fun hvalid htext judge valid hgate name hname => ?_ }
  -- the gate changes nothing, whichever registry it looks at
  obtain ⟨-, rfl⟩ := ValidConfiguration.ofConfiguration_eq_ok_iff.1 hgate
  have hwritable : valid.configuration.Writable :=
    { flag_valid := fun entry hmem =>
        hvalid _ (List.mem_append_left _ (List.mem_map_of_mem hmem))
      setting_writable := fun setting hmem => ResolvedSetting.writable_of_valueOfText
        (hvalid _ (List.mem_append_right _ (List.mem_map_of_mem hmem))) (htext setting hmem)
      noFlag := fun setting hmem => hflags ▸ hnoFlag setting hmem }
  -- the lines that declare the name are as many as the places of the name among all names
  calc (lines valid.header.toList).countP (fun line => declared? line = some name)
      = ((lines valid.header.toList).filterMap declared?).count name := by
        rw [List.count_filterMap]
        simp only [beq_eq_decide]
    _ = valid.configuration.names.count name := by
        rw [valid.declared_header hwritable, Configuration.names]
    _ = 1 := List.count_eq_one_of_mem hnames hname

/-- A name that is asserted as a flag and set as a constant, be it by one layer, by the text of
one layer or by different layers, ends the resolution, and any configuration that is resolved
declares every name once. -/
theorem Registry.no_name_twice (registry : Registry) (layerSet : LayerSet) :
    (∀ name, (∃ layer ∈ layerSet.layers, name ∈ layer.assertions.map (·.flag)) →
      (∃ layer ∈ layerSet.layers, name ∈ layer.settings.map (·.name)) →
        ∃ error, registry.resolve layerSet = .error error) ∧
    (∀ layer ∈ layerSet.layers, ∀ text document, LayerText.parse text = .ok document →
      document.toLayer layer.identifier layer.priority = .ok layer →
        ∀ name ∈ document.assertions.map (·.flag), name ∈ document.settings.map (·.name) →
          ∃ error, registry.resolve layerSet = .error error) ∧
    ∀ configuration, registry.resolve layerSet = .ok configuration →
      configuration.DeclaresOnce registry := by
  refine ⟨fun name => exists_error_of_clash, ?_, fun configuration => declaresOnce_of_resolve⟩
  intro layer hlayer text document _ htoLayer name hasserted hset
  have hnames := document.mem_names_of_toLayer htoLayer name
  exact exists_error_of_clash ⟨layer, hlayer, hnames.1.2 hasserted⟩
    ⟨layer, hlayer, hnames.2.2 hset⟩

/-- A layer that sets a flag of the small stack as if it were a constant, and one that asserts
that flag. -/
def clashingLayers : LayerSet :=
  { layers :=
      [ { identifier := "setter", priority := 1
          assertions := [⟨"LOG", .disabled⟩], settings := [⟨"AUDIT", "1"⟩]
          legal := by decide, assertions_nodup := by decide, settings_nodup := by decide },
        { identifier := "asserter", priority := 2
          assertions := [⟨"AUDIT", .disabled⟩], settings := [⟨"LIMIT", "8"⟩]
          legal := by decide, assertions_nodup := by decide, settings_nodup := by decide } ]
    identifiers_nodup := by decide
    ascending := by decide }

/-- The clash ends the resolution, and without it the header has one line for each name. -/
theorem no_name_twice_quiet :
    (∃ error, quietRegistry.resolve clashingLayers = .error error) ∧
      ∀ name ∈ ["AUDIT", "LOG", "GREETING"],
        (lines quietConfiguration.header.toList).countP
          (fun line => declared? line = some name) = 1 := by
  have hvalue : ∀ setting ∈ quietConfiguration.configuration.settings,
      ValueOfText setting.value := by
    intro setting hmem
    obtain rfl := List.mem_singleton.1 hmem
    exact ⟨"#define GREETING \"/* hello */\"\n", _, ⟨"GREETING", "\"/* hello */\""⟩, rfl,
      List.mem_singleton_self _, rfl⟩
  have hquiet := (Registry.no_name_twice quietRegistry quietLayers).2.2
    quietConfiguration.configuration rfl
  exact ⟨(Registry.no_name_twice quietRegistry clashingLayers).1 "AUDIT" (by decide) (by decide),
    hquiet.once (by decide) hvalue quietRegistry quietConfiguration rfl⟩

end LayeredFlags
