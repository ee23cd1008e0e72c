import LayeredFlags.Configuration
import Mathlib.Data.List.Nodup
/-!
# Lookup by Name

Definitions, entries and assertions have distinct names, so that a lookup finds an item
exactly when the item is there under that name.

## Main results

* `find?_key_eq_some_iff`: lookup in a list of items with distinct keys;
* `Registry.position?_eq_some_iff`: the place that a registry has in its index for a name;
* `Registry.finds_of_getElem?`, `Registry.lacks_of_not_mem`: what a registry says of its own
  names and of all others;
* `Configuration.find?_eq_some_iff`, `Layer.stateOf?_eq_some_iff`: what a configuration and
  a layer say of a flag.
-/

namespace LayeredFlags

/-- In a list with distinct keys an item is found under its key, and nothing else is. -/
theorem find?_key_eq_some_iff {α : Type} {key : α → String} {items : List α}
    (h : (items.map key).Nodup) {name : String} {item : α} :
    items.find? (key · == name) = some item ↔ item ∈ items ∧ key item = name := by
  constructor
  · intro hfind
    exact ⟨List.mem_of_find?_eq_some hfind, by simpa using List.find?_some hfind⟩
  · rintro ⟨hmem, rfl⟩
    have hsome : (items.find? (key · == key item)).isSome :=
      List.find?_isSome.2 ⟨item, hmem, by simp⟩
    obtain ⟨found, hfound⟩ := Option.isSome_iff_exists.1 hsome
    have hkey : key found = key item := by simpa using List.find?_some hfound
    rw [hfound, List.inj_on_of_nodup_map h (List.mem_of_find?_eq_some hfound) hmem hkey]

/-- Nothing is found exactly when no item has the key. -/
theorem find?_key_eq_none_iff {α : Type} {key : α → String} {items : List α}
    {name : String} :
    items.find? (key · == name) = none ↔ name ∉ items.map key := by
  simp [List.find?_eq_none]

/-- An index has no entry for a name exactly when the name is none of those in it. -/
theorem lookup_eq_none_iff_not_mem {α : Type} {index : List (String × α)} {name : String} :
    index.lookup name = none ↔ name ∉ index.map (·.1) := by
  simp only [List.lookup_eq_none_iff, bne_iff_ne, List.mem_map, not_exists, not_and, ne_comm]

namespace Registry

variable {registry : Registry} {name : String} {names : List String} {definition : FlagDefinition}
  {index final : List (String × Nat)} {place : Nat}

/-- The definition that a registry finds is the one of that name. -/
theorem find?_eq_some_iff :
    registry.find? name = some definition ↔
      definition ∈ registry.definitions ∧ definition.name = name :=
  find?_key_eq_some_iff registry.names_nodup

/-- An index refuses the earliest name that is in it already. -/
theorem indexFrom_eq_error_iff :
    indexFrom index place names = .error name ↔
      firstRepeatAfter (index.map (·.1)) names = some name := by
  induction names generalizing index place with
  | nil => simp [indexFrom, firstRepeatAfter]
  | cons first rest ih =>
    rw [indexFrom, firstRepeatAfter]
    split
    · next hlookup =>
      have hmem : first ∈ index.map (·.1) := by
        by_contra hnew
        rw [lookup_eq_none_iff_not_mem.2 hnew] at hlookup
        cases hlookup
      rw [if_pos hmem]
      simp
    · next hlookup => rw [if_neg (lookup_eq_none_iff_not_mem.1 hlookup), ih, List.map_cons]

/-- A name has in an index the place that it had before, or the one where it stands among the
names that are put in. -/
theorem lookup_indexFrom (h : indexFrom index place names = .ok final) {found : Nat} :
    final.lookup name = some found ↔
      index.lookup name = some found ∨ ∃ i, names[i]? = some name ∧ found = place + i := by
  induction names generalizing index place with
  | nil =>
    cases h
    simp
  | cons first rest ih =>
    rw [indexFrom] at h
    split at h
    · cases h
    · next hnew =>
      have hplace : (∃ i, (first :: rest)[i]? = some name ∧ found = place + i) ↔
          first = name ∧ found = place ∨
            ∃ i, rest[i]? = some name ∧ found = place + 1 + i := by
        rw [← Nat.or_exists_add_one]
        simp [Nat.add_assoc, Nat.add_comm 1]
      rw [ih h, List.lookup_cons, hplace, ← or_assoc]
      refine or_congr_left ?_
      by_cases hname : name = first
      · subst hname
        simp [hnew, eq_comm]
      · rw [beq_eq_false_iff_ne.2 hname]
        simp [Ne.symm hname]

/-- The place of a name is the one where the definition of that name stands. -/
theorem position?_eq_some_iff :
    registry.position? name = some place ↔ registry.names[place]? = some name := by
  have hrepeat : firstRepeat? registry.names = none :=
    firstRepeat?_eq_none_iff.2 registry.names_nodup
  rw [position?]
  split
  · next index hindex => simp [lookup_indexFrom hindex, eq_comm]
  · next other hindex =>
    -- the names of a registry are distinct, so that the index takes them all
    cases hrepeat.symm.trans (indexFrom_eq_error_iff.1 hindex)

/-- The registry has the definition at that place, and finds it there by that name. -/
structure Finds (registry : Registry) (name : String) (place : Nat)
    (definition : FlagDefinition) : Prop where
  /-- The index has the place. -/
  position?_eq : registry.position? name = some place
  /-- The definition is found. -/
  find?_eq : registry.find? name = some definition
  /-- A lookup succeeds with it. -/
  lookup_eq : registry.lookup name = .ok definition
  /-- The name is known. -/
  contains_eq : registry.contains name = true

/-- The registry knows nothing of the name. -/
structure Lacks (registry : Registry) (name : String) : Prop where
  /-- The index has no place for it. -/
  position?_eq : registry.position? name = none
  /-- No definition is found. -/
  find?_eq : registry.find? name = none
  /-- A lookup fails, and blames no layer. -/
  lookup_eq : registry.lookup name = .error (.unknownFlag name none)
  /-- The name is not known. -/
  contains_eq : registry.contains name = false

/-- Every definition is found by its name, and at its own place. -/
theorem finds_of_getElem? (h : registry.definitions[place]? = some definition) :
    registry.Finds definition.name place definition := by
  have hfind : registry.find? definition.name = some definition :=
    find?_eq_some_iff.2 ⟨List.mem_of_getElem? h, rfl⟩
  refine ⟨position?_eq_some_iff.2 ?_, hfind, ?_, ?_⟩
  · rw [names, List.getElem?_map, h]
    rfl
  · rw [lookup, hfind]
  · rw [contains, hfind]
    rfl

/-- No other name is found. -/
theorem lacks_of_not_mem (h : name ∉ registry.names) : registry.Lacks name := by
  have hfind : registry.find? name = none := find?_key_eq_none_iff.2 h
  refine ⟨?_, hfind, ?_, ?_⟩
  · refine Option.eq_none_iff_forall_ne_some.2 fun place hplace => h ?_
    exact List.mem_of_getElem? (position?_eq_some_iff.1 hplace)
  · rw [lookup, hfind]
  · rw [contains, hfind]
    rfl

end Registry

/-- The state that a layer finds is the one it asserts. -/
theorem Layer.stateOf?_eq_some_iff {layer : Layer} {flag : String} {state : FlagState} :
    layer.stateOf? flag = some state ↔ ⟨flag, state⟩ ∈ layer.assertions := by
  rw [stateOf?, Option.map_eq_some_iff]
  constructor
  · rintro ⟨assertion, hfind, rfl⟩
    obtain ⟨hmem, rfl⟩ := (find?_key_eq_some_iff layer.assertions_nodup).1 hfind
    exact hmem
  · intro hmem
    exact ⟨_, (find?_key_eq_some_iff layer.assertions_nodup).2 ⟨hmem, rfl⟩, rfl⟩

/-- A layer asserts one state of a flag only. -/
theorem Layer.state_unique {layer : Layer} {flag : String} {state state' : FlagState}
    (h : ⟨flag, state⟩ ∈ layer.assertions) (h' : ⟨flag, state'⟩ ∈ layer.assertions) :
    state = state' := by
  rw [← stateOf?_eq_some_iff] at h h'
  exact Option.some.inj (h.symm.trans h')

/-- A layer finds no state for a flag exactly when it does not assert it. -/
theorem Layer.stateOf?_eq_none_iff {layer : Layer} {flag : String} :
    layer.stateOf? flag = none ↔ flag ∉ layer.assertions.map (·.flag) := by
  rw [stateOf?, Option.map_eq_none_iff, find?_key_eq_none_iff]

namespace Configuration

variable {configuration : Configuration} {flag : String}

/-- The entry that a configuration finds is the one of that flag. -/
theorem find?_eq_some_iff {entry : Entry} :
    configuration.find? flag = some entry ↔
      entry ∈ configuration.entries ∧ entry.flag = flag :=
  find?_key_eq_some_iff configuration.flags_nodup

/-- A flag is not found exactly when the configuration does not have it. -/
theorem find?_eq_none_iff : configuration.find? flag = none ↔ flag ∉ configuration.flags :=
  find?_key_eq_none_iff

/-- No two settings of a configuration have one name. -/
theorem nodup_names_settings (configuration : Configuration) :
    (configuration.settings.map (·.name)).Nodup := by
  -- names that ascend strictly are distinct
  refine (List.pairwise_map.2 configuration.settings_ascending).imp fun hlt heq => ?_
  exact String.lt_irrefl _ (heq ▸ hlt)

/-- The state of a flag is that of its entry. -/
theorem stateOf?_eq_some_iff {state : FlagState} :
    configuration.stateOf? flag = some state ↔
      ∃ entry ∈ configuration.entries, entry.flag = flag ∧ entry.state = state := by
  simp only [stateOf?, Option.map_eq_some_iff, find?_eq_some_iff]
  constructor
  · rintro ⟨entry, ⟨hmem, hflag⟩, hstate⟩
    exact ⟨entry, hmem, hflag, hstate⟩
  · rintro ⟨entry, hmem, hflag, hstate⟩
    exact ⟨entry, ⟨hmem, hflag⟩, hstate⟩

end Configuration

end LayeredFlags
