import LayeredFlags.Proofs.Construction
import LayeredFlags.Proofs.Lookup
import LayeredFlags.Proofs.Repeats
/-!
# What a Layer Keeps

A layer is built from assertions and settings that may be repeated. It keeps the first of each name,
which stands for all of that name because they agree, and it is refused for the first assertion that
contradicts an earlier one, or for the first such setting if the assertions are in order. Nothing is
left to be merged in a layer, so that building it again from what it says changes nothing.

## Main definitions

* `Layer.Conflict`: why nothing can be built from assertions and settings;
* `Layer.Condenses`: what comes of building a layer.

## Main results

* `Layer.withSettings_append`: settings may be added in parts;
* `Layer.exists_build_iff`, `Layer.build_eq_error_iff`: when a layer is built, and why it is not;
* `Layer.build_self`: a layer is built from what it says;
* `Layer.condenses_build`: what is built for a legal identifier, from whatever is said.
-/

namespace LayeredFlags.Layer

/-- Why no layer of that identifier is built from the assertions and the settings. -/
inductive Conflict (identifier : String) (assertions : List Assertion) (settings : List Setting) :
    FlagError → Prop where
  /-- The assertion is the first one that contradicts an earlier one of its flag. -/
  | assertion {assertion : Assertion}
      (first : FirstConflict Assertion.flag assertions assertion) :
      Conflict identifier assertions settings (.duplicateAssertionInLayer identifier assertion.flag)
  /-- No assertions contradict each other, and the setting is the first one that contradicts an
  earlier one of its name. -/
  | setting {setting : Setting} (agree : Agree Assertion.flag assertions)
      (first : FirstConflict Setting.name settings setting) :
      Conflict identifier assertions settings (.duplicateAssertionInLayer identifier setting.name)

/-- What comes of building a layer from the assertions and the settings. -/
structure Condenses (identifier : String) (priority : Int64) (assertions : List Assertion)
    (settings : List Setting) : Prop where
  /-- A layer is built exactly if no flag is asserted in two states and no constant has two
  values. -/
  exists_iff : (∃ layer, build identifier priority assertions settings = .ok layer) ↔
    (∀ a ∈ assertions, ∀ b ∈ assertions, a.flag = b.flag → a.state = b.state) ∧
      ∀ a ∈ settings, ∀ b ∈ settings, a.name = b.name → a.value = b.value
  /-- It has the identifier and the priority, and it says what it is built from, in order, but
  nothing that stands behind something of the same name. -/
  built : ∀ layer, build identifier priority assertions settings = .ok layer →
    layer.identifier = identifier ∧ layer.priority = priority ∧
      layer.assertions = firstOfEach Assertion.flag assertions ∧
      layer.settings = firstOfEach Setting.name settings
  /-- No name is left twice. -/
  distinct : ∀ layer, build identifier priority assertions settings = .ok layer →
    (layer.assertions.map (·.flag)).Nodup ∧ (layer.settings.map (·.name)).Nodup
  /-- It asserts of a flag the state that every assertion of the flag has, if there is one. -/
  states : ∀ layer, build identifier priority assertions settings = .ok layer → ∀ flag,
    (flag ∉ assertions.map (·.flag) → layer.stateOf? flag = none) ∧
      ∀ a ∈ assertions, a.flag = flag → layer.stateOf? flag = some a.state
  /-- It is the layer that is built from what it says. -/
  rebuilt : ∀ layer, build identifier priority assertions settings = .ok layer →
    build layer.identifier layer.priority layer.assertions layer.settings = .ok layer
  /-- Settings can be added to it in parts. -/
  in_parts : ∀ layer, build identifier priority assertions settings = .ok layer →
    ∀ first second, layer.withSettings first >>= (·.withSettings second) =
      layer.withSettings (first ++ second)
  /-- Otherwise the error names the first conflict. -/
  error_iff : ∀ error, build identifier priority assertions settings = .error error ↔
    Conflict identifier assertions settings error

variable {identifier : String} {priority : Int64} {assertions : List Assertion}
  {settings : List Setting} {layer : Layer} {error : FlagError}

/-! ## Names -/

/-- Assertions agree exactly if no flag is asserted in two states. -/
theorem agree_assertions_iff :
    Agree Assertion.flag assertions ↔
      ∀ a ∈ assertions, ∀ b ∈ assertions, a.flag = b.flag → a.state = b.state := by
  refine forall₂_congr fun a _ => forall₃_congr fun b _ hflag => ?_
  rw [Assertion.mk.injEq]
  exact and_iff_right hflag

/-- Settings agree exactly if no constant has two values. -/
theorem agree_settings_iff :
    Agree Setting.name settings ↔
      ∀ a ∈ settings, ∀ b ∈ settings, a.name = b.name → a.value = b.value := by
  refine forall₂_congr fun a _ => forall₃_congr fun b _ hname => ?_
  rw [Setting.mk.injEq]
  exact and_iff_right hname

/-! ## Adding settings -/

/-- Settings may be added in parts. -/
theorem withSettings_append (layer : Layer) (first second : List Setting) :
    layer.withSettings first >>= (·.withSettings second) =
      layer.withSettings (first ++ second) := by
  cases hfirst : layer.withSettings first with
  | error error =>
    obtain ⟨name, hmerge, rfl⟩ := withSettings_eq_error_iff.1 hfirst
    refine (withSettings_eq_error_iff.2 ⟨name, ?_, rfl⟩).symm
    rw [mergeRepeats_append, hmerge, error_bind]
  | ok next =>
    obtain ⟨hid, hpriority, hsaid, hmerge⟩ := withSettings_eq_ok_iff.1 hfirst
    have hgoes : mergeRepeats Setting.name layer.settings (first ++ second) =
        mergeRepeats Setting.name next.settings second := by
      rw [mergeRepeats_append, hmerge, ok_bind]
    rw [ok_bind]
    cases hsecond : next.withSettings second with
    | error error =>
      obtain ⟨name, hmerge', rfl⟩ := withSettings_eq_error_iff.1 hsecond
      exact (withSettings_eq_error_iff.2 ⟨name, hgoes.trans hmerge', by rw [hid]⟩).symm
    | ok last =>
      obtain ⟨hid', hpriority', hsaid', hmerge'⟩ := withSettings_eq_ok_iff.1 hsecond
      exact (withSettings_eq_ok_iff.2 ⟨hid'.trans hid, hpriority'.trans hpriority,
        hsaid'.trans hsaid, hgoes.trans hmerge'⟩).symm

/-! ## Building -/

/-- A layer without settings is built from assertions that agree, under a legal identifier. -/
theorem exists_ofAssertions_iff (priority : Int64) :
    (∃ layer, ofAssertions identifier priority assertions = .ok layer) ↔
      LegalIdentifier identifier ∧ Agree Assertion.flag assertions := by
  rw [← exists_mergeRepeats_eq_ok_iff]
  constructor
  · rintro ⟨layer, hlayer⟩
    obtain ⟨legal, -, -, hmerge, -⟩ := ofAssertions_eq_ok_iff.1 hlayer
    exact ⟨legal, _, hmerge⟩
  · rintro ⟨legal, merged, hmerge⟩
    cases hlayer : ofAssertions identifier priority assertions with
    | ok layer => exact ⟨layer, rfl⟩
    | error error =>
      rcases ofAssertions_eq_error_iff.1 hlayer with ⟨illegal, -⟩ | ⟨-, flag, hflag, -⟩
      · exact absurd legal illegal
      · cases hmerge.symm.trans hflag

/-- A layer is built from assertions and settings that agree, under a legal identifier. -/
theorem exists_build_iff (priority : Int64) :
    (∃ layer, build identifier priority assertions settings = .ok layer) ↔
      LegalIdentifier identifier ∧ Agree Assertion.flag assertions ∧
        Agree Setting.name settings := by
  constructor
  · rintro ⟨layer, hlayer⟩
    obtain ⟨legal, -, -, hassertions, hsettings⟩ := build_eq_ok_iff.1 hlayer
    exact ⟨legal, (mergeRepeats_eq_ok_iff.1 hassertions).1, (mergeRepeats_eq_ok_iff.1 hsettings).1⟩
  · rintro ⟨legal, hassertions, hsettings⟩
    obtain ⟨base, hbase⟩ := (exists_ofAssertions_iff priority).2 ⟨legal, hassertions⟩
    obtain ⟨-, -, -, -, hnil⟩ := ofAssertions_eq_ok_iff.1 hbase
    obtain ⟨merged, hmerged⟩ := exists_mergeRepeats_eq_ok_iff.2 hsettings
    cases hadded : base.withSettings settings with
    | ok layer => exact ⟨layer, by rw [build, hbase, ok_bind, hadded]⟩
    | error error =>
      obtain ⟨name, hname, -⟩ := withSettings_eq_error_iff.1 hadded
      rw [hnil] at hname
      cases hmerged.symm.trans hname

/-- A layer with a legal identifier is refused for the first conflict in what it says. -/
theorem build_eq_error_iff (legal : LegalIdentifier identifier) :
    build identifier priority assertions settings = .error error ↔
      Conflict identifier assertions settings error := by
  rw [build, bind_eq_error_iff, ofAssertions_eq_error_iff]
  constructor
  · rintro ((⟨illegal, -⟩ | ⟨-, flag, hmerge, rfl⟩) | ⟨base, hbase, hadded⟩)
    · exact absurd legal illegal
    · obtain ⟨assertion, first, rfl⟩ := mergeRepeats_eq_error_iff.1 hmerge
      exact .assertion first
    · obtain ⟨-, rfl, -, hmerge, hnil⟩ := ofAssertions_eq_ok_iff.1 hbase
      obtain ⟨name, hname, rfl⟩ := withSettings_eq_error_iff.1 hadded
      rw [hnil] at hname
      obtain ⟨setting, first, rfl⟩ := mergeRepeats_eq_error_iff.1 hname
      exact .setting (mergeRepeats_eq_ok_iff.1 hmerge).1 first
  · intro h
    cases h with
    | assertion first =>
      exact .inl (.inr ⟨legal, _, mergeRepeats_eq_error_iff.2 ⟨_, first, rfl⟩, rfl⟩)
    | setting agree first =>
      -- the assertions alone are in order, so that the settings come to be read
      obtain ⟨base, hbase⟩ := (exists_ofAssertions_iff priority).2 ⟨legal, agree⟩
      obtain ⟨-, hid, -, -, hnil⟩ := ofAssertions_eq_ok_iff.1 hbase
      refine .inr ⟨base, hbase, withSettings_eq_error_iff.2 ⟨_, ?_, by rw [hid]⟩⟩
      rw [hnil]
      exact mergeRepeats_eq_error_iff.2 ⟨_, first, rfl⟩

/-- A layer is built again from what it says. -/
theorem build_self (layer : Layer) :
    build layer.identifier layer.priority layer.assertions layer.settings = .ok layer := by
  refine build_eq_ok_iff.2 ⟨layer.legal, rfl, rfl, ?_, ?_⟩
  · exact mergeRepeats_eq_ok_of_nodup layer.assertions_nodup
  · exact mergeRepeats_eq_ok_of_nodup layer.settings_nodup

/-- Whatever is said under a legal identifier makes the layer of the first of each name, or is
refused for its first conflict. -/
theorem condenses_build (legal : LegalIdentifier identifier) (priority : Int64)
    (assertions : List Assertion) (settings : List Setting) :
    Condenses identifier priority assertions settings where
  exists_iff := by
    rw [← agree_assertions_iff, ← agree_settings_iff, exists_build_iff]
    exact and_iff_right legal
  built layer h := by
    obtain ⟨-, hid, hpriority, hassertions, hsettings⟩ := build_eq_ok_iff.1 h
    exact ⟨hid, hpriority, (mergeRepeats_eq_ok_iff.1 hassertions).2,
      (mergeRepeats_eq_ok_iff.1 hsettings).2⟩
  distinct layer _ := ⟨layer.assertions_nodup, layer.settings_nodup⟩
  states layer h flag := by
    obtain ⟨-, -, -, hassertions, -⟩ := build_eq_ok_iff.1 h
    have hmem (a : Assertion) : a ∈ layer.assertions ↔ a ∈ assertions := by
      rw [mem_mergeRepeats_iff hassertions, or_iff_right List.not_mem_nil]
    refine ⟨fun hnot => stateOf?_eq_none_iff.2 fun hflag => hnot ?_, ?_⟩
    · obtain ⟨a, ha, rfl⟩ := List.mem_map.1 hflag
      exact List.mem_map_of_mem ((hmem a).1 ha)
    · rintro a ha rfl
      exact stateOf?_eq_some_iff.2 ((hmem a).2 ha)
  rebuilt layer _ := build_self layer
  in_parts layer _ := layer.withSettings_append
  error_iff error := build_eq_error_iff legal

/-- A flag that is enabled twice is no conflict, and of two conflicts between settings the second
one is not come to. -/
theorem condenses_twoConflicts :
    let said : List Assertion := [⟨"A", .enabled⟩, ⟨"B", .disabled⟩, ⟨"A", .enabled⟩]
    let set : List Setting := [⟨"X", "1"⟩, ⟨"Y", "2"⟩, ⟨"Y", "3"⟩, ⟨"X", "4"⟩]
    LegalIdentifier "device" ∧ Condenses "device" (-5) said set ∧
      Conflict "device" said set (.duplicateAssertionInLayer "device" "Y") := by
  intro said set
  have legal : LegalIdentifier "device" := by decide
  have hcondenses := condenses_build legal (-5) said set
  exact ⟨legal, hcondenses, (hcondenses.error_iff _).1 rfl⟩

end LayeredFlags.Layer
