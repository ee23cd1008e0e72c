import LayeredFlags.LayerSet
import LayeredFlags.Registry
/-!
# Configurations

A configuration gives every flag of a registry its state, with the layer that decided it and
the layers that were overridden, and every constant that some layer sets its value. Flags
have distinct names, and settings stand in strictly ascending order of their names; both
facts are part of the type. `Configuration.assert` and `Configuration.set` apply one thing
that a layer says.

Resolution starts from the default states of a registry and applies the layers of a set in
ascending priority, so that the highest layer that speaks of a flag or a constant decides.
Within a layer its assertions come before its settings. The first thing that does not fit
the registry ends the resolution.
-/

namespace LayeredFlags

/-- The state of one flag and where it comes from. -/
structure Entry where
  /-- The name of the flag. -/
  flag : String
  /-- Its state. -/
  state : FlagState
  /-- The layer that decided the state, or the word for none. -/
  source : String
  /-- The layers that asserted the flag before that one, lowest priority first. -/
  overridden : List String
deriving DecidableEq, Repr

namespace Entry

/-- The entry of a flag that no layer has asserted. -/
def ofDefinition (definition : FlagDefinition) : Entry :=
  { flag := definition.name
    state := definition.defaultState
    source := defaultSource
    overridden := [] }

/-- No layer has asserted the flag. -/
def isDefault (entry : Entry) : Bool :=
  entry.overridden.isEmpty && entry.source == defaultSource

/-- The entry after one more layer has asserted the flag. A layer that decided the state so
far is overridden. -/
def assert (entry : Entry) (layer : String) (state : FlagState) : Entry :=
  { flag := entry.flag
    state := state
    source := layer
    overridden :=
      if entry.source = defaultSource then entry.overridden
      else entry.overridden ++ [entry.source] }

end Entry

/-- The value of one constant and where it comes from. -/
structure ResolvedSetting where
  /-- The name of the constant. -/
  name : String
  /-- Its value. -/
  value : String
  /-- The layer that decided the value. -/
  source : String
deriving DecidableEq, Repr

namespace ResolvedSetting

/-- Put a setting into its place by name. It replaces a setting of the same name. -/
def insert (new : ResolvedSetting) : List ResolvedSetting → List ResolvedSetting
  | [] => [new]
  | old :: rest =>
    if new.name < old.name then new :: old :: rest
    else if new.name = old.name then new :: rest
    else old :: insert new rest

/-- The settings after an insertion are the new one and some of the old ones. -/
theorem mem_of_mem_insert {new setting : ResolvedSetting} {settings : List ResolvedSetting}
    (h : setting ∈ insert new settings) : setting = new ∨ setting ∈ settings := by
  induction settings with
  | nil => simpa [insert] using h
  | cons old rest ih =>
    simp only [insert] at h
    split at h
    · simpa using h
    · split at h
      · rcases List.mem_cons.1 h with rfl | hmem
        · exact .inl rfl
        · exact .inr (List.mem_cons_of_mem _ hmem)
      · rcases List.mem_cons.1 h with rfl | hmem
        · exact .inr (by simp)
        · exact (ih hmem).imp id (List.mem_cons_of_mem _)

/-- Names that ascend strictly still do so after an insertion. -/
theorem pairwise_insert (new : ResolvedSetting) {settings : List ResolvedSetting}
    (h : settings.Pairwise (·.name < ·.name)) :
    (insert new settings).Pairwise (·.name < ·.name) := by
  induction settings with
  | nil => exact List.pairwise_singleton _ _
  | cons old rest ih =>
    obtain ⟨hold, hrest⟩ := List.pairwise_cons.1 h
    simp only [insert]
    split
    · next hlt =>
      refine List.pairwise_cons.2 ⟨fun s hs => ?_, h⟩
      rcases List.mem_cons.1 hs with rfl | hmem
      · exact hlt
      · exact String.lt_trans hlt (hold s hmem)
    · next hnlt =>
      split
      · next heq => exact List.pairwise_cons.2 ⟨fun s hs => heq ▸ hold s hs, hrest⟩
      · next hne =>
        refine List.pairwise_cons.2 ⟨fun s hs => ?_, ih hrest⟩
        rcases mem_of_mem_insert hs with rfl | hmem
        · refine Decidable.byContradiction fun hngt => hne ?_
          exact String.le_antisymm (String.not_lt.1 hngt) (String.not_lt.1 hnlt)
        · exact hold s hmem

end ResolvedSetting

/-- The states of all flags and the values of all constants. -/
structure Configuration where
  /-- One entry for every flag, in the order of the registry. -/
  entries : List Entry
  /-- One setting for every constant, by name. -/
  settings : List ResolvedSetting
  /-- No flag has two entries. -/
  flags_nodup : (entries.map (·.flag)).Nodup
  /-- The names of the settings ascend strictly. -/
  settings_ascending : settings.Pairwise (·.name < ·.name)
deriving DecidableEq

namespace Configuration

/-- The names of the flags, in order. -/
def flags (configuration : Configuration) : List String :=
  configuration.entries.map (·.flag)

/-- The entry of a flag, if there is one. -/
def find? (configuration : Configuration) (flag : String) : Option Entry :=
  configuration.entries.find? (·.flag == flag)

/-- The state of a flag, if it has one. -/
def stateOf? (configuration : Configuration) (flag : String) : Option FlagState :=
  (configuration.find? flag).map (·.state)

/-- The names of the enabled flags, in order. -/
def enabled (configuration : Configuration) : List String :=
  (configuration.entries.filter (·.state.isEnabled)).map (·.flag)

/-- Every flag has its default state, and no constant has a value. -/
def defaults (registry : Registry) : Configuration :=
  { entries := registry.definitions.map Entry.ofDefinition
    settings := []
    flags_nodup := by
      simpa [Function.comp_def, Entry.ofDefinition] using registry.names_nodup
    settings_ascending := .nil }

/-- The entries after one layer has asserted the state of one flag. -/
def assertIn (layer : String) (assertion : Assertion) (entries : List Entry) : List Entry :=
  entries.map fun entry =>
    if entry.flag = assertion.flag then entry.assert layer assertion.state else entry

/-- An assertion changes no flag's name and no flag's place. -/
@[simp]
theorem map_flag_assertIn (layer : String) (assertion : Assertion) (entries : List Entry) :
    (assertIn layer assertion entries).map (·.flag) = entries.map (·.flag) := by
  simp only [assertIn, List.map_map]
  refine List.map_congr_left fun entry _ => ?_
  simp only [Function.comp_apply]
  split <;> rfl

/-- Apply an assertion of the named layer. The flag has to be known. -/
def assert (configuration : Configuration) (layer : String) (assertion : Assertion) :
    Except FlagError Configuration :=
  if assertion.flag ∈ configuration.flags then
    .ok
      { configuration with
        entries := assertIn layer assertion configuration.entries
        flags_nodup := by simpa using configuration.flags_nodup }
  else .error (.unknownFlag assertion.flag (some layer))

/-- Apply a setting of the named layer. The constant must not be a flag. -/
def set (configuration : Configuration) (layer : String) (setting : Setting) :
    Except FlagError Configuration :=
  if setting.name ∈ configuration.flags then
    .error (.settingNamesFlag layer setting.name)
  else
    .ok
      { configuration with
        settings :=
          ResolvedSetting.insert ⟨setting.name, setting.value, layer⟩ configuration.settings
        settings_ascending :=
          ResolvedSetting.pairwise_insert _ configuration.settings_ascending }

end Configuration

/-! ## Resolution -/

/-- Apply all that a layer says. -/
def Configuration.apply (configuration : Configuration) (layer : Layer) :
    Except FlagError Configuration := do
  let asserted ←
    layer.assertions.foldlM (fun c a => c.assert layer.identifier a) configuration
  layer.settings.foldlM (fun c s => c.set layer.identifier s) asserted

/-- The configuration that the layers make of the defaults of a registry. -/
def Registry.resolve (registry : Registry) (layerSet : LayerSet) :
    Except FlagError Configuration :=
  layerSet.layers.foldlM Configuration.apply (Configuration.defaults registry)

end LayeredFlags
