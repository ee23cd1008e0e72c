import LayeredFlags.Files.Tree
import LayeredFlags.Proofs.Construction
import LayeredFlags.Proofs.Outcome
import Mathlib.Data.List.Perm.Basic
/-!
# The Provenance of a Stack

The layers of a stack and their sources are gathered in the order of the entries and arranged
apart from each other. They still stand in step, and in the same order whatever that of the
entries, because a layer and its source have the same priority and no other layer has it.

## Main definitions

* `LayerEntry.Yields`: the source and the layer that are loaded for an entry;
* `Stack.Provenance`: what the sources of a stack tell of its layers and of its entries.

## Main results

* `LoadedLayer.load_eq_ok_iff`, `Stack.ofParts_eq_ok_iff`: when a layer and when a stack is loaded,
  and what comes of it;
* `Stack.exists_ofParts_iff`: which stacks can be loaded;
* `Stack.ofParts_of_perm`: the order of the entries makes no difference;
* `Stack.provenance_of_ofParts`: the provenance of every stack that is loaded.
-/

namespace LayeredFlags

/-- The source and the layer are those that the file of an entry is loaded as. -/
structure LayerEntry.Yields (read : Reader) (entry : LayerEntry) (source : LayerSource)
    (layer : Layer) : Prop where
  /-- The source and the layer have the identifier of the entry. -/
  id_eq : source.id = entry.id ∧ layer.identifier = entry.id
  /-- They have its priority. -/
  priority_eq : source.priority = entry.priority ∧ layer.priority = entry.priority
  /-- The source names the file. -/
  path_eq : source.path = entry.path
  /-- The source counts what the layer says. -/
  counts_eq : source.assertions = layer.assertions.length ∧
    source.settings = layer.settings.length
  /-- The digest is that of the bytes of the file. The layer says what they say as a layer text,
  without repeats. -/
  content : ∃ bytes document, read entry.path = .ok bytes ∧
    source.digest = Sha256.hexDigest bytes ∧
    LoadedLayer.readDocument bytes = .ok document ∧
    mergeRepeats Assertion.flag [] document.assertions = .ok layer.assertions ∧
    mergeRepeats Setting.name [] document.settings = .ok layer.settings

/-- The sources of a stack tell where its layers come from, and the order of the entries makes no
difference. -/
structure Stack.Provenance (read : Reader) (catalog : String) (entries : List LayerEntry)
    (stack : Stack) : Prop where
  /-- There is one source for every entry, and one layer. -/
  length_eq : stack.sources.length = entries.length ∧
    stack.layers.layers.length = entries.length
  /-- The priorities ascend strictly, those of the sources and those of the layers. -/
  ascending : stack.sources.Pairwise (·.priority < ·.priority) ∧
    stack.layers.layers.Pairwise (·.priority < ·.priority)
  /-- The source and the layer at one place are loaded for one entry, which is the only one with
  their identifier. -/
  traced : ∀ (i : Nat) source layer, stack.sources[i]? = some source →
    stack.layers.layers[i]? = some layer → ∃ entry ∈ entries,
      entry.Yields read source layer ∧ ∀ other ∈ entries, other.id = source.id → other = entry
  /-- From the entries in another order the same stack is loaded. -/
  reordered : ∀ others, others.Perm entries → ofParts read catalog others = .ok stack

/-! ## Loaded layers -/

namespace LoadedLayer

/-- What is loaded for an entry. -/
theorem load_eq_ok_iff {read : Reader} {entry : LayerEntry} {loaded : LoadedLayer} :
    load read entry = .ok loaded ↔ entry.Yields read loaded.source loaded.layer := by
  simp only [load, liftFlag, LayerText.Document.toLayer, bind_eq_ok_iff, mapError_eq_ok_iff,
    Layer.build_eq_ok_iff, pure_eq_ok, Except.ok.injEq]
  constructor
  · rintro ⟨bytes, hread, document, hdocument, layer, ⟨-, hid, hpriority, hassertions, hsettings⟩,
      rfl⟩
    exact
      { id_eq := ⟨hid, hid⟩
        priority_eq := ⟨hpriority, hpriority⟩
        path_eq := rfl
        counts_eq := ⟨rfl, rfl⟩
        content := ⟨bytes, document, hread, rfl, hdocument, hassertions, hsettings⟩ }
  · intro h
    obtain ⟨layer, source⟩ := loaded
    obtain ⟨bytes, document, hread, hdigest, hdocument, hassertions, hsettings⟩ := h.content
    refine ⟨bytes, hread, document, hdocument, layer,
      ⟨h.id_eq.2 ▸ layer.legal, h.id_eq.2, h.priority_eq.2, hassertions, hsettings⟩, ?_⟩
    have hsource : sourceOf layer entry.path bytes = source := by
      rw [sourceOf, h.id_eq.2, ← h.id_eq.1, h.priority_eq.2, ← h.priority_eq.1, ← h.path_eq,
        ← hdigest, ← h.counts_eq.1, ← h.counts_eq.2]
    rw [hsource]

section Entries

variable {read : Reader} {entries : List LayerEntry} {loaded : List LoadedLayer}
  (h : List.Forall₂ (fun entry item => load read entry = .ok item) entries loaded)
include h

theorem map_id_eq : entries.map (·.id) = loaded.map (·.layer.identifier) := by
  refine map_eq_of_forall₂ (fun entry item hload => ?_) h
  exact (load_eq_ok_iff.1 hload).id_eq.2.symm

theorem map_priority_eq : entries.map (·.priority) = loaded.map (·.layer.priority) := by
  refine map_eq_of_forall₂ (fun entry item hload => ?_) h
  exact (load_eq_ok_iff.1 hload).priority_eq.2.symm

/-- What was loaded for an entry has one priority. -/
theorem priority_eq_of_mem {item : LoadedLayer} (hitem : item ∈ loaded) :
    item.source.priority = item.layer.priority := by
  obtain ⟨entry, -, hload⟩ := exists_mem_of_forall₂ h hitem
  have hyields := load_eq_ok_iff.1 hload
  rw [hyields.priority_eq.1, hyields.priority_eq.2]

end Entries

/-- Loaded layers by ascending priority. -/
def arrange (loaded : List LoadedLayer) : List LoadedLayer :=
  loaded.mergeSort fun first second => LayerSet.inOrder first.layer second.layer

theorem perm_arrange (loaded : List LoadedLayer) : (arrange loaded).Perm loaded :=
  List.mergeSort_perm _ _

/-- Loaded layers are arranged as the layers alone are. -/
theorem map_layer_arrange (loaded : List LoadedLayer) :
    (arrange loaded).map (·.layer) = LayerSet.arrange (loaded.map (·.layer)) :=
  List.map_mergeSort fun _ _ _ _ => rfl

/-- They are arranged as the sources alone are, if these have the priorities of the layers. -/
theorem map_source_arrange {loaded : List LoadedLayer}
    (h : ∀ item ∈ loaded, item.source.priority = item.layer.priority) :
    (arrange loaded).map (·.source) = Stack.arrangeSources (loaded.map (·.source)) := by
  refine List.map_mergeSort fun first hfirst second hsecond => ?_
  rw [LayerSet.inOrder, h first hfirst, h second hsecond]

/-- If no two layers have the same priority, their order before makes no difference. -/
theorem arrange_eq_of_perm {first second : List LoadedLayer} (h : first.Perm second)
    (hnodup : (first.map (·.layer.priority)).Nodup) : arrange first = arrange second := by
  have hfirst := perm_arrange first
  have hperm : (arrange first).Perm (arrange second) :=
    hfirst.trans (h.trans (perm_arrange second).symm)
  have hascends : ∀ loaded : List LoadedLayer,
      (arrange loaded).Pairwise (·.layer.priority ≤ ·.layer.priority) := by
    intro loaded
    have hlayers := LayerSet.pairwise_arrange (loaded.map (·.layer))
    rwa [← map_layer_arrange, List.pairwise_map] at hlayers
  refine hperm.eq_of_pairwise ?_ (hascends first) (hascends second)
  -- two of them that may stand in either order have one priority
  intro a b ha hb hle hge
  exact List.inj_on_of_nodup_map hnodup (hfirst.mem_iff.1 ha)
    (hfirst.mem_iff.1 (hperm.mem_iff.2 hb)) (Int64.le_antisymm hle hge)

/-- Layers that make a layer set, once they are arranged, have distinct priorities. -/
theorem priorities_nodup {loaded : List LoadedLayer} {layerSet : LayerSet}
    (h : layerSet.layers = (arrange loaded).map (·.layer)) :
    (loaded.map (·.layer.priority)).Nodup := by
  have hnodup := layerSet.priorities_nodup
  rw [h, List.map_map] at hnodup
  exact ((perm_arrange loaded).map _).nodup_iff.1 hnodup

end LoadedLayer

/-! ## Stacks -/

namespace Stack

variable {read : Reader} {catalog : String} {entries others : List LayerEntry} {stack : Stack}

/-- The layers of a stack and their sources are those that are loaded for the entries, arranged
together. -/
theorem ofParts_eq_ok_iff :
    ofParts read catalog entries = .ok stack ↔
      LayerEntry.checkAll entries = .ok () ∧ Catalog.load read catalog = .ok stack.registry ∧
      ∃ loaded, List.Forall₂ (fun entry item => LoadedLayer.load read entry = .ok item)
          entries loaded ∧
        stack.layers.layers = (LoadedLayer.arrange loaded).map (·.layer) ∧
        stack.sources = (LoadedLayer.arrange loaded).map (·.source) := by
  obtain ⟨registry, layers, sources⟩ := stack
  simp only [ofParts, liftFlag, bind_eq_ok_iff, mapM_eq_ok_iff, mapError_eq_ok_iff, pure_eq_ok,
    Except.ok.injEq, mk.injEq]
  constructor
  · rintro ⟨_, hcheck, _, hcatalog, loaded, hloaded, _, hlayers, rfl, rfl, rfl⟩
    refine ⟨hcheck, hcatalog, loaded, hloaded, ?_, ?_⟩
    · rw [LoadedLayer.map_layer_arrange,
        LayerSet.arrange_eq_of_perm (LayerSet.ofLayers_eq_ok_iff.1 hlayers)]
    · rw [LoadedLayer.map_source_arrange fun _ => LoadedLayer.priority_eq_of_mem hloaded]
  · rintro ⟨hcheck, hcatalog, loaded, hloaded, hlayers, hsources⟩
    refine ⟨(), hcheck, registry, hcatalog, loaded, hloaded, layers, ?_, rfl, rfl, ?_⟩
    · rw [LayerSet.ofLayers_eq_ok_iff, hlayers]
      exact (LoadedLayer.perm_arrange loaded).map _
    · rw [hsources, LoadedLayer.map_source_arrange fun _ => LoadedLayer.priority_eq_of_mem hloaded]

/-- A stack can be loaded if its catalog and all its layers can, no two layers have the same
priority, and the entries pass the check. -/
theorem exists_ofParts_iff :
    (∃ stack, ofParts read catalog entries = .ok stack) ↔
      LayerEntry.checkAll entries = .ok () ∧
      (∃ registry, Catalog.load read catalog = .ok registry) ∧
      (∀ entry ∈ entries, ∃ loaded, LoadedLayer.load read entry = .ok loaded) ∧
      (entries.map (·.priority)).Nodup := by
  constructor
  · rintro ⟨stack, h⟩
    obtain ⟨hcheck, hcatalog, loaded, hloaded, hlayers, -⟩ := ofParts_eq_ok_iff.1 h
    refine ⟨hcheck, ⟨_, hcatalog⟩, exists_forall₂_iff.1 ⟨loaded, hloaded⟩, ?_⟩
    rw [LoadedLayer.map_priority_eq hloaded]
    exact LoadedLayer.priorities_nodup hlayers
  · rintro ⟨hcheck, ⟨registry, hcatalog⟩, hload, hpriorities⟩
    obtain ⟨loaded, hloaded⟩ := exists_forall₂_iff.2 hload
    have hidentifiers := (LayerEntry.checkAll_eq_ok_iff.1 hcheck).2
    rw [LoadedLayer.map_id_eq hloaded] at hidentifiers
    rw [LoadedLayer.map_priority_eq hloaded] at hpriorities
    have hset : ((loaded.map (·.layer)).map (·.identifier)).Nodup ∧
        ((loaded.map (·.layer)).map (·.priority)).Nodup := by
      rw [List.map_map, List.map_map]
      exact ⟨hidentifiers, hpriorities⟩
    obtain ⟨layerSet, hperm⟩ := LayerSet.exists_layers_perm_iff.2 hset
    refine ⟨⟨registry, layerSet, (LoadedLayer.arrange loaded).map (·.source)⟩,
      ofParts_eq_ok_iff.2 ⟨hcheck, hcatalog, loaded, hloaded, ?_, rfl⟩⟩
    rw [LoadedLayer.map_layer_arrange, LayerSet.arrange_eq_of_perm hperm]

/-- The same stack is loaded whatever the order of the entries. -/
theorem ofParts_of_perm (h : ofParts read catalog entries = .ok stack)
    (hperm : others.Perm entries) : ofParts read catalog others = .ok stack := by
  rw [ofParts_eq_ok_iff] at h ⊢
  obtain ⟨hcheck, hcatalog, loaded, hloaded, hlayers, hsources⟩ := h
  -- what is loaded for the entries changes its order with them
  obtain ⟨loadedOthers, hothers, hloadedPerm⟩ := List.perm_comp_forall₂ hperm hloaded
  have harrange : LoadedLayer.arrange loaded = LoadedLayer.arrange loadedOthers :=
    LoadedLayer.arrange_eq_of_perm hloadedPerm.symm (LoadedLayer.priorities_nodup hlayers)
  rw [harrange] at hlayers hsources
  refine ⟨?_, hcatalog, loadedOthers, hothers, hlayers, hsources⟩
  rw [LayerEntry.checkAll_eq_ok_iff] at hcheck ⊢
  exact ⟨fun entry hentry => hcheck.1 entry (hperm.mem_iff.1 hentry),
    (hperm.map (·.id)).nodup_iff.2 hcheck.2⟩

/-- At every place of a loaded stack stand a source and a layer of one entry. -/
theorem provenance_of_ofParts (h : ofParts read catalog entries = .ok stack) :
    Provenance read catalog entries stack := by
  obtain ⟨hcheck, -, loaded, hloaded, hlayers, hsources⟩ := ofParts_eq_ok_iff.1 h
  have hperm := LoadedLayer.perm_arrange loaded
  have hyields : ∀ item ∈ LoadedLayer.arrange loaded, ∃ entry ∈ entries,
      entry.Yields read item.source item.layer := by
    intro item hitem
    obtain ⟨entry, hentry, hload⟩ := exists_mem_of_forall₂ hloaded (hperm.mem_iff.1 hitem)
    exact ⟨entry, hentry, LoadedLayer.load_eq_ok_iff.1 hload⟩
  have hlength : (LoadedLayer.arrange loaded).length = entries.length :=
    hperm.length_eq.trans hloaded.length_eq.symm
  refine
    { length_eq := ?_
      ascending := ⟨?_, stack.layers.ascending⟩
      traced := fun i source layer hsource hlayer => ?_
      reordered := fun others => ofParts_of_perm h }
  · rw [hlayers, hsources, List.length_map, List.length_map]
    exact ⟨hlength, hlength⟩
  · have hascending := stack.layers.ascending
    rw [hlayers, List.pairwise_map] at hascending
    rw [hsources, List.pairwise_map]
    refine hascending.imp_of_mem fun hfirst hsecond hlt => ?_
    rwa [LoadedLayer.priority_eq_of_mem hloaded (hperm.mem_iff.1 hfirst),
      LoadedLayer.priority_eq_of_mem hloaded (hperm.mem_iff.1 hsecond)]
  · rw [hsources, List.getElem?_map, Option.map_eq_some_iff] at hsource
    rw [hlayers, List.getElem?_map, Option.map_eq_some_iff] at hlayer
    -- both lists are columns of the same arranged list
    obtain ⟨item, hitem, rfl⟩ := hsource
    obtain ⟨other, hother, rfl⟩ := hlayer
    cases hitem.symm.trans hother
    obtain ⟨entry, hentry, hentryYields⟩ := hyields item (List.mem_of_getElem? hitem)
    refine ⟨entry, hentry, hentryYields, fun other hother hid => ?_⟩
    exact List.inj_on_of_nodup_map (LayerEntry.checkAll_eq_ok_iff.1 hcheck).2 hother hentry
      (hid.trans hentryYields.id_eq.1)

/-- A catalog of one flag and two layers about it, one of which repeats itself. -/
def twoLayers : FileTree :=
  ((FileTree.empty.addFile "flags.toml"
      "[[flag]]\nname = \"A\"\ndefault = \"enabled\"\n".toUTF8.toList).addFile "common.h"
    "DISABLE A\nDISABLE A\n".toUTF8.toList).addFile "device.h" "#define A\n".toUTF8.toList

/-- A stack whose entries stand in another order than its layers. -/
theorem provenance_twoLayers :
    let entries : List LayerEntry := [⟨"device", 10, "device.h"⟩, ⟨"common", -5, "common.h"⟩]
    ∃ stack, ofParts twoLayers.read "flags.toml" entries = .ok stack ∧
      Provenance twoLayers.read "flags.toml" entries stack := by
  intro entries
  have hstack : ∃ stack, ofParts twoLayers.read "flags.toml" entries = .ok stack := by
    rw [exists_ofParts_iff]
    simp only [exists_eq_ok_iff_isOk]
    decide +kernel
  obtain ⟨stack, h⟩ := hstack
  exact ⟨stack, h, provenance_of_ofParts h⟩

end Stack

end LayeredFlags
