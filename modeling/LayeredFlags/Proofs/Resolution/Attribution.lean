import LayeredFlags.Output.Report
import LayeredFlags.Proofs.Outcome
import LayeredFlags.Proofs.Resolution.Precedence
/-!
# Attribution

An entry names the layers that assert its flag by their identifiers, and one word stands for no
layer. These names are plain texts. They tell the layers apart because no layer is called by that
word and no two layers of a set are called alike, so that the names of an entry are as good as the
layers themselves, and counting the entries with the word counts the flags that no layer asserts.

## Main definitions

* `LayerSet.Asserts`: some layer of a set asserts a flag;
* `Entry.named`: the layers that an entry names;
* `Entry.Attributed`: the entry names the layers of a set that assert its flag, each once.

## Main results

* `Entry.DecidedBy.named_eq`: a decided entry names its asserters, in order;
* `Entry.DecidedBy.attributed`: in a layer set these are attributions;
* `Report.exists_toHuman_eq`: how a report for readers ends;
* `Registry.attributed_of_resolve`: the entries and the counts of what is resolved.
-/

namespace LayeredFlags

/-- Some layer of the set asserts the flag. -/
def LayerSet.Asserts (layerSet : LayerSet) (flag : String) : Prop :=
  ∃ layer ∈ layerSet.layers, flag ∈ layer.assertions.map (·.flag)

instance (layerSet : LayerSet) : DecidablePred layerSet.Asserts :=
  fun flag => inferInstanceAs
    (Decidable (∃ layer ∈ layerSet.layers, flag ∈ layer.assertions.map (·.flag)))

/-- The layers that an entry names, lowest priority first: those that were overridden, and the
source if that is a layer. -/
def Entry.named (entry : Entry) : List String :=
  entry.overridden ++ if entry.source = defaultSource then [] else [entry.source]

/-- The entry names the layers of the set that assert its flag, and each of them once. -/
structure Entry.Attributed (layerSet : LayerSet) (entry : Entry) : Prop where
  /-- The source is the word for none exactly if no layer asserts the flag. -/
  source_eq_iff : entry.source = "default" ↔ ¬ layerSet.Asserts entry.flag
  /-- The entry counts as a default in the same case. -/
  isDefault_iff : entry.isDefault = true ↔ ¬ layerSet.Asserts entry.flag
  /-- Any other source and every overridden layer is found in the set, and asserts the flag. -/
  found : ∀ identifier, (identifier = entry.source ∧ identifier ≠ "default") ∨
      identifier ∈ entry.overridden →
    ∃ layer, layerSet.find? identifier = some layer ∧ layer.identifier = identifier ∧
      layer ∈ assertersOf entry.flag layerSet.layers
  /-- The source and the overridden layers are pairwise different. -/
  nodup : (entry.source :: entry.overridden).Nodup
  /-- As many layers are named as assert the flag. -/
  length_named : entry.named.length = (assertersOf entry.flag layerSet.layers).length

/-! ## Entries -/

/-- A layer set does not assert a flag exactly if the flag has no asserters there. -/
theorem LayerSet.not_asserts_iff {layerSet : LayerSet} {flag : String} :
    ¬ layerSet.Asserts flag ↔ assertersOf flag layerSet.layers = [] := by
  simp only [Asserts, assertersOf_eq_nil_iff, not_exists, not_and]

/-- A layer set finds the layer of an identifier. -/
theorem LayerSet.find?_eq_some_iff {layerSet : LayerSet} {identifier : String} {layer : Layer} :
    layerSet.find? identifier = some layer ↔
      layer ∈ layerSet.layers ∧ layer.identifier = identifier :=
  find?_key_eq_some_iff layerSet.identifiers_nodup

namespace Entry

variable {definition : FlagDefinition} {asserters : List Layer} {entry : Entry}

/-- A decided entry names its asserters in their order. -/
theorem DecidedBy.named_eq (h : entry.DecidedBy definition asserters) :
    entry.named = asserters.map (·.identifier) := by
  cases h with
  | byDefault => rfl
  | @byLast lower top state _ =>
    -- the word for none is not an identifier, so that the source counts as a layer
    have hname : top.identifier ≠ defaultSource := top.legal.2
    simp only [named, if_neg hname, List.map_append, List.map_cons, List.map_nil]

/-- The source of a decided entry is the word for none exactly if there are no asserters. -/
theorem DecidedBy.source_eq_iff (h : entry.DecidedBy definition asserters) :
    entry.source = defaultSource ↔ asserters = [] := by
  cases h with
  | byDefault => simp [defaultSource]
  | @byLast lower top state _ =>
    have hname : top.identifier ≠ defaultSource := top.legal.2
    simp [hname]

/-- Nothing is overridden in an entry without asserters. -/
theorem DecidedBy.overridden_eq_nil (h : entry.DecidedBy definition asserters)
    (hnone : asserters = []) : entry.overridden = [] := by
  subst hnone
  rw [decidedBy_nil_iff.1 h]
  rfl

/-- An entry that is decided by the asserters of a layer set is attributed to them. -/
theorem DecidedBy.attributed {layerSet : LayerSet}
    (h : entry.DecidedBy definition (assertersOf definition.name layerSet.layers)) :
    entry.Attributed layerSet := by
  have hnamed := h.named_eq
  rw [← h.flag_eq] at h hnamed
  -- the names are some of those that the set keeps apart
  have hsublist : entry.named.Sublist (layerSet.layers.map (·.identifier)) := by
    rw [hnamed]
    exact List.filter_sublist.map _
  have hnodup : entry.named.Nodup := layerSet.identifiers_nodup.sublist hsublist
  refine
    { source_eq_iff := h.source_eq_iff.trans LayerSet.not_asserts_iff.symm
      isDefault_iff := ?_
      found := fun identifier hidentifier => ?_
      nodup := ?_
      length_named := by rw [hnamed, List.length_map] }
  · have hsource := h.source_eq_iff
    rw [LayerSet.not_asserts_iff, isDefault, Bool.and_eq_true, List.isEmpty_iff, beq_iff_eq,
      hsource]
    exact ⟨And.right, fun hnone => ⟨h.overridden_eq_nil hnone, hnone⟩⟩
  · -- the identifier is one of those named, and so it belongs to an asserter
    have hmem : identifier ∈ entry.named := by
      rcases hidentifier with ⟨rfl, hne⟩ | hover
      · exact List.mem_append_right _ (by simp [show entry.source ≠ defaultSource from hne])
      · exact List.mem_append_left _ hover
    rw [hnamed] at hmem
    obtain ⟨layer, hlayer, rfl⟩ := List.mem_map.1 hmem
    have hfind := LayerSet.find?_eq_some_iff.2 ⟨(List.mem_filter.1 hlayer).1, rfl⟩
    exact ⟨layer, hfind, rfl, hlayer⟩
  · by_cases hsource : entry.source = defaultSource
    · -- nothing is overridden where the word stands for no layer
      rw [h.overridden_eq_nil (h.source_eq_iff.1 hsource)]
      exact List.nodup_singleton _
    · rw [named, if_neg hsource] at hnodup
      exact (List.perm_append_singleton _ _).nodup_iff.1 hnodup

end Entry

/-! ## Reports -/

namespace Report

/-- The line at the end of a report for readers, with the numbers of all flags, of those that
some layer asserts and of those that none does. -/
def summary (flags layered defaults : Nat) : String :=
  s!"{flags} flags, {layered} from layers, {defaults} defaults"

/-- A report for readers ends with that line. -/
theorem exists_toHuman_eq (report : Report) : ∃ front, report.toHuman =
    front ++ "\n" ++ summary report.entries.length report.layeredCount report.defaultCount := by
  obtain ⟨front, hne, hlines⟩ : ∃ front, front ≠ [] ∧ report.humanLines =
      front ++ [summary report.entries.length report.layeredCount report.defaultCount] :=
    ⟨_, by simp, rfl⟩
  refine ⟨"\n".intercalate front, ?_⟩
  rw [toHuman, hlines, String.intercalate_append_of_ne_nil hne (List.cons_ne_nil _ _),
    String.intercalate_singleton]

/-- The two numbers add up to the number of entries. -/
theorem layeredCount_add_defaultCount (report : Report) :
    report.layeredCount + report.defaultCount = report.entries.length :=
  Nat.sub_add_cancel List.countP_le_length

end Report

/-! ## Resolution -/

/-- The entries of a resolved configuration are attributed to the layers that assert their flags,
and in every report on the configuration the line at the end has the numbers of flags that some
layer asserts and that none does. -/
theorem Registry.attributed_of_resolve {registry : Registry} {layerSet : LayerSet}
    {configuration : Configuration} (h : registry.resolve layerSet = .ok configuration) :
    (∀ entry ∈ configuration.entries, entry.Attributed layerSet) ∧
      ∀ createdAt violations sources, ∃ front,
        (Report.ofConfiguration createdAt configuration violations sources).toHuman =
            front ++ "\n" ++ Report.summary registry.names.length
              (registry.names.countP (layerSet.Asserts ·))
              (registry.names.countP (¬ layerSet.Asserts ·)) ∧
          registry.names.countP (layerSet.Asserts ·) +
            registry.names.countP (¬ layerSet.Asserts ·) = registry.names.length := by
  have hattributed : ∀ entry ∈ configuration.entries, entry.Attributed layerSet := by
    intro entry hmem
    obtain ⟨definition, -, hdecided⟩ := exists_mem_of_forall₂ (entries_of_resolve h) hmem
    exact hdecided.attributed
  refine ⟨hattributed, fun createdAt violations sources => ?_⟩
  set report := Report.ofConfiguration createdAt configuration violations sources
  -- there is one entry for every registered flag
  have hflags : configuration.entries.map (·.flag) = registry.names := flags_of_resolve h
  have hlength : report.entries.length = registry.names.length := by
    rw [← hflags, List.length_map]
    rfl
  have htotal : registry.names.countP (layerSet.Asserts ·) +
      registry.names.countP (¬ layerSet.Asserts ·) = registry.names.length := by
    rw [List.length_eq_countP_add_countP (layerSet.Asserts ·)]
    simp only [decide_eq_true_eq, decide_not]
  have hdefault : report.defaultCount = registry.names.countP (¬ layerSet.Asserts ·) := by
    rw [← hflags, List.countP_map]
    refine List.countP_congr fun entry hmem => ?_
    rw [beq_iff_eq, Function.comp_apply, decide_eq_true_eq]
    exact (hattributed entry hmem).source_eq_iff
  have hlayered : report.layeredCount = registry.names.countP (layerSet.Asserts ·) := by
    have hsum := report.layeredCount_add_defaultCount
    omega
  obtain ⟨front, hfront⟩ := report.exists_toHuman_eq
  refine ⟨front, ?_, htotal⟩
  rw [hfront, hlength, hlayered, hdefault]

/-- Of the two flags one is asserted, by both layers. -/
theorem attributed_tracedThenQuiet : ∃ configuration,
    traceAndLog.resolve tracedThenQuiet = .ok configuration ∧
      (∀ entry ∈ configuration.entries, entry.Attributed tracedThenQuiet) ∧
      ∃ front, (Report.ofConfiguration "" configuration [] []).toHuman =
        front ++ "\n" ++ "2 flags, 1 from layers, 1 defaults" := by
  obtain ⟨hattributed, hcounts⟩ := Registry.attributed_of_resolve
    (rfl : traceAndLog.resolve tracedThenQuiet = .ok _)
  obtain ⟨front, hfront, -⟩ := hcounts "" [] []
  exact ⟨_, rfl, hattributed, front, hfront⟩

end LayeredFlags
