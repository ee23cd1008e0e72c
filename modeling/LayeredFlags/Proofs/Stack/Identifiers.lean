import LayeredFlags.Proofs.Arrangement
import LayeredFlags.Proofs.Condensation
import LayeredFlags.Proofs.Stack.Admission
import LayeredFlags.Proofs.Stack.Provenance
/-!
# Identifiers of Layers

The identifiers of the layers of a stack are checked twice: all of them before any file but the
manifest is read, and again when the layers are built and put together. The early check goes through
the entries once and looks for every fault of an entry before it comes to the next one, while the
later one refuses illegal identifiers layer by layer and repeated ones at the end. The two accept
the same identifiers, so that the later one never has anything to refuse.

## Main definitions

* `StackError.BlamesIdentifier`: an error of the later check;
* `Layer.Accepts`, `LayerSet.TellsApart`: what the later check accepts;
* `LayerEntry.ChecksAgree`, `Manifest.ChecksAgree`: what the early check means for the later one,
  for entries and for a manifest that names them.

## Main results

* `Layer.accepts_iff`, `LayerSet.tellsApart_iff`: the later check, in the words of the early one;
* `Stack.failsOnly_ofParts_not_blames`, `Stack.failsOnly_load_not_blames`: the later check finds
  nothing;
* `identifierChecks_agree`: the two checks agree.
-/

namespace LayeredFlags

/-! ## Specification -/

/-- The error is about the identifier of a layer. -/
inductive StackError.BlamesIdentifier : StackError → Prop where
  /-- The identifier is blank or reserved. -/
  | invalid (layer : String) : BlamesIdentifier (.flag (.invalidLayerIdentifier layer))
  /-- Two layers have it. -/
  | repeated (layer : String) : BlamesIdentifier (.flag (.duplicateLayerIdentifier layer))

/-- No layer is refused for having the identifier. -/
def Layer.Accepts (identifier : String) : Prop :=
  ∀ priority assertions layer,
    ofAssertions identifier priority assertions ≠ .error (.invalidLayerIdentifier layer)

/-- The layers are not refused for having a common identifier. -/
def LayerSet.TellsApart (layers : List Layer) : Prop :=
  ∀ layer, ofLayers layers ≠ .error (.duplicateLayerIdentifier layer)

/-- An entry has an identifier that no layer may have, or that another entry has too. -/
def LayerEntry.Misidentified (entries : List LayerEntry) : Prop :=
  (∃ entry ∈ entries, ¬ Layer.Accepts entry.id) ∨ ¬ (entries.map (·.id)).Nodup

/-- The early check of the entries makes the later one needless. -/
structure LayerEntry.ChecksAgree (entries : List LayerEntry) : Prop where
  /-- Entries pass the early check exactly if their identifiers are accepted, and layers with these
  identifiers are told apart, whatever else is in the layers. -/
  passes_iff : checkAll entries = .ok () ↔
    (∀ entry ∈ entries, Layer.Accepts entry.id) ∧
      ∀ layers : List Layer, layers.map (·.identifier) = entries.map (·.id) →
        LayerSet.TellsApart layers
  /-- It is enough that any layers with these identifiers are told apart. -/
  passes_iff_of_layers : ∀ layers : List Layer,
    layers.map (·.identifier) = entries.map (·.id) →
      (checkAll entries = .ok () ↔ LayerSet.TellsApart layers)
  /-- A stack with these entries is never refused for an identifier. -/
  not_blamed : ∀ read catalog error,
    Stack.ofParts read catalog entries = .error error → ¬ error.BlamesIdentifier
  /-- If an identifier is bad, the entries are refused as those of a manifest are, whatever the
  files are, and whether or not they can be read. -/
  refused : Misidentified entries → ∃ fault, ∀ read catalog,
    Stack.ofParts read catalog entries = .error (.manifest fault)

/-- The early check of the entries of a manifest makes the later one needless. -/
structure Manifest.ChecksAgree (path : String) : Prop where
  /-- A stack is never refused for an identifier. -/
  not_blamed : ∀ read error, Stack.load read path = .error error → ¬ error.BlamesIdentifier
  /-- If an identifier is bad, the manifest is refused, whatever the other files are, and whether or
  not they can be read. -/
  refused : ∀ text manifest, Manifest.ofText text = .ok manifest →
    LayerEntry.Misidentified manifest.layers → ∃ fault, ∀ read,
      readText read path = .ok text → Stack.load read path = .error (.manifest fault)

variable {path identifier : String} {entries : List LayerEntry} {error : StackError}

/-! ## The later check -/

/-- A layer may have an identifier exactly if it is legal. -/
theorem Layer.accepts_iff : Layer.Accepts identifier ↔ LegalIdentifier identifier := by
  constructor
  · intro haccepts
    by_contra illegal
    exact haccepts 0 [] identifier (ofAssertions_eq_error_iff.2 (.inl ⟨illegal, rfl⟩))
  · intro legal priority assertions layer h
    rcases ofAssertions_eq_error_iff.1 h with ⟨illegal, -⟩ | ⟨-, flag, -, heq⟩
    · exact illegal legal
    · cases heq

/-- Layers are told apart exactly if no two have the same identifier. -/
theorem LayerSet.tellsApart_iff {layers : List Layer} :
    TellsApart layers ↔ (layers.map (·.identifier)).Nodup := by
  rw [← firstRepeat?_eq_none_iff, Option.eq_none_iff_forall_ne_some]
  refine forall_congr' fun identifier => not_congr ?_
  rw [ofLayers_eq_error_iff, firstRepeat?_eq_some_iff]
  constructor
  · intro h
    cases h with
    | identifier repeated => exact repeated
  · exact .identifier

/-- The layer of that identifier that says nothing. -/
def Layer.silent (identifier : String) (legal : LegalIdentifier identifier) : Layer where
  identifier := identifier
  priority := 0
  assertions := []
  settings := []
  legal := legal
  assertions_nodup := List.nodup_nil
  settings_nodup := List.nodup_nil

/-- There are layers with any legal identifiers. -/
theorem Layer.exists_map_identifier_eq {identifiers : List String}
    (h : ∀ identifier ∈ identifiers, LegalIdentifier identifier) :
    ∃ layers : List Layer, layers.map (·.identifier) = identifiers := by
  refine ⟨identifiers.pmap silent h, ?_⟩
  rw [List.map_pmap]
  exact List.pmap_eq_self.2 fun _ _ => rfl

/-! ## The early check -/

namespace LayerEntry

/-- The early check finds a fault of the entries, if it finds anything. -/
theorem exists_fault_of_checkAll (h : checkAll entries = .error error) :
    ∃ fault, error = .manifest fault := by
  unfold checkAll at h
  split at h
  · next fault _ => exact ⟨fault, (Except.error.inj h).symm⟩
  · cases h

/-- Entries pass the early check exactly if no identifier is bad. -/
theorem checkAll_eq_ok_iff_not_misidentified :
    checkAll entries = .ok () ↔ ¬ Misidentified entries := by
  rw [checkAll_eq_ok_iff, Misidentified]
  simp only [Layer.accepts_iff]
  push Not
  rfl

/-- Entries pass the early check exactly if the later one accepts their identifiers and tells layers
with these identifiers apart. -/
theorem checkAll_eq_ok_iff_tellsApart :
    checkAll entries = .ok () ↔
      (∀ entry ∈ entries, Layer.Accepts entry.id) ∧
        ∀ layers : List Layer, layers.map (·.identifier) = entries.map (·.id) →
          LayerSet.TellsApart layers := by
  simp only [checkAll_eq_ok_iff, Layer.accepts_iff, LayerSet.tellsApart_iff]
  refine and_congr_right fun legal => ⟨fun hnodup layers hlayers => ?_, fun hall => ?_⟩
  · rwa [hlayers]
  · obtain ⟨layers, hlayers⟩ := Layer.exists_map_identifier_eq (List.forall_mem_map.2 legal)
    rw [← hlayers]
    exact hall layers hlayers

/-- If there are layers with the identifiers of the entries, nothing but a repeat is left to be
found. -/
theorem checkAll_eq_ok_iff_of_map_eq {layers : List Layer}
    (h : layers.map (·.identifier) = entries.map (·.id)) :
    checkAll entries = .ok () ↔ LayerSet.TellsApart layers := by
  rw [checkAll_eq_ok_iff, LayerSet.tellsApart_iff, h]
  refine and_iff_right fun entry hentry => ?_
  have hmem : entry.id ∈ layers.map (·.identifier) := h ▸ List.mem_map_of_mem hentry
  obtain ⟨layer, -, hid⟩ := List.mem_map.1 hmem
  exact hid ▸ layer.legal

/-- The early check reads the identifiers of the entries only. -/
theorem firstFault?_congr {others : List LayerEntry} {seen : List String}
    (h : others.map (·.id) = entries.map (·.id)) :
    firstFault? seen others = firstFault? seen entries := by
  induction entries generalizing others seen with
  | nil =>
    rw [List.map_nil, List.map_eq_nil_iff] at h
    rw [h]
  | cons entry rest ih =>
    obtain ⟨other, more, rfl, hid, hmore⟩ := List.map_eq_cons_iff.1 h
    rw [firstFault?, firstFault?, hid, ih hmore]

theorem checkAll_congr {others : List LayerEntry} (h : others.map (·.id) = entries.map (·.id)) :
    checkAll others = checkAll entries := by
  rw [checkAll, checkAll, firstFault?_congr h]

/-- Relative paths are not part of what the early check reads. -/
theorem map_id_rebase (base : String) (manifest : Manifest) :
    (manifest.rebase base).layers.map (·.id) = manifest.layers.map (·.id) := by
  rw [Manifest.rebase, List.map_map]
  rfl

end LayerEntry

/-! ## Loading -/

/-- The early check blames the entries of a manifest, not a layer. -/
theorem LayerEntry.failsOnly_checkAll_not_blames :
    FailsOnly (¬ StackError.BlamesIdentifier ·) (checkAll entries) := by
  intro error h
  obtain ⟨fault, rfl⟩ := exists_fault_of_checkAll h
  nofun

/-- A catalog knows nothing of layers. -/
theorem Catalog.failsOnly_load_not_blames (read : Reader) (path : String) :
    FailsOnly (¬ StackError.BlamesIdentifier ·) (Catalog.load read path) := by
  refine (FailsOnly.mapError fun _ _ => nofun).bind fun text => ?_
  refine (FailsOnly.mapError fun _ _ => nofun).bind fun catalog => ?_
  intro error h
  rw [toRegistry_eq_error_iff, findSome?_eq_some_iff_firstError] at h
  obtain ⟨-, check, -, -, -, hfault⟩ := h
  cases fails_iff.2 hfault with
  | constraints first =>
    obtain ⟨-, declaration, -, -, -, hmisplaced⟩ := first
    cases hmisplaced <;> nofun
  | _ => nofun

/-- The layer of an entry with a legal identifier is not refused for it. -/
theorem LoadedLayer.failsOnly_load_not_blames (read : Reader) {entry : LayerEntry}
    (legal : LegalIdentifier entry.id) :
    FailsOnly (¬ StackError.BlamesIdentifier ·) (LoadedLayer.load read entry) := by
  refine (FailsOnly.mapError fun _ _ => nofun).bind fun bytes => ?_
  refine (FailsOnly.mapError fun _ _ => nofun).bind fun document => ?_
  refine (FailsOnly.mapError fun error hbuild => ?_).bind fun layer => failsOnly_ok _
  cases (Layer.build_eq_error_iff legal).1 hbuild <;> nofun

/-- Layers with distinct identifiers are not refused for them. -/
theorem LayerSet.failsOnly_ofLayers_not_blames {layers : List Layer}
    (hnodup : (layers.map (·.identifier)).Nodup) :
    FailsOnly (¬ StackError.BlamesIdentifier ·) (liftFlag (ofLayers layers)) := by
  refine FailsOnly.mapError fun error h => ?_
  cases ofLayers_eq_error_iff.1 h with
  | identifier repeated => exact absurd hnodup repeated.not_nodup
  | priority => nofun

theorem Manifest.failsOnly_load_not_blames (read : Reader) (path : String) :
    FailsOnly (¬ StackError.BlamesIdentifier ·) (Manifest.load read path) := by
  refine (FailsOnly.mapError fun _ _ => nofun).bind fun text => ?_
  refine (FailsOnly.mapError fun _ _ => nofun).bind fun manifest => ?_
  exact LayerEntry.failsOnly_checkAll_not_blames.bind fun _ => failsOnly_ok _

/-- A stack is never refused for an identifier: the early check has found it before. -/
theorem Stack.failsOnly_ofParts_not_blames (read : Reader) (catalog : String)
    (entries : List LayerEntry) :
    FailsOnly (¬ StackError.BlamesIdentifier ·) (ofParts read catalog entries) := by
  intro error h
  rcases bind_eq_error_iff.1 h with h | ⟨_, hcheck, h⟩
  · exact LayerEntry.failsOnly_checkAll_not_blames error h
  obtain ⟨legal, hnodup⟩ := LayerEntry.checkAll_eq_ok_iff.1 hcheck
  rcases bind_eq_error_iff.1 h with h | ⟨registry, -, h⟩
  · exact Catalog.failsOnly_load_not_blames read catalog error h
  rcases bind_eq_error_iff.1 h with h | ⟨loaded, hloaded, h⟩
  · exact FailsOnly.mapM
      (fun entry hentry => LoadedLayer.failsOnly_load_not_blames read (legal entry hentry)) error h
  -- the layers have the identifiers of the entries, which are distinct
  rw [LoadedLayer.map_id_eq (mapM_eq_ok_iff.1 hloaded), ← Function.comp_def Layer.identifier,
    ← List.map_map] at hnodup
  exact (LayerSet.failsOnly_ofLayers_not_blames hnodup).bind (fun _ => failsOnly_ok _) error h

theorem Stack.failsOnly_load_not_blames (read : Reader) (path : String) :
    FailsOnly (¬ StackError.BlamesIdentifier ·) (load read path) :=
  (Manifest.failsOnly_load_not_blames read path).bind fun manifest =>
    Stack.failsOnly_ofParts_not_blames read manifest.catalog manifest.layers

/-! ## Refusals -/

/-- The early check refuses entries with a bad identifier. -/
theorem LayerEntry.exists_checkAll_eq_error (h : Misidentified entries) :
    ∃ fault, checkAll entries = .error (.manifest fault) := by
  cases hcheck : checkAll entries with
  | ok _ => exact absurd h (checkAll_eq_ok_iff_not_misidentified.1 hcheck)
  | error error =>
    obtain ⟨fault, rfl⟩ := exists_fault_of_checkAll hcheck
    exact ⟨fault, rfl⟩

/-- They are refused before anything is read. -/
theorem Stack.exists_fault_of_misidentified (h : LayerEntry.Misidentified entries) :
    ∃ fault, ∀ read catalog, ofParts read catalog entries = .error (.manifest fault) := by
  obtain ⟨fault, hcheck⟩ := LayerEntry.exists_checkAll_eq_error h
  exact ⟨fault, fun read catalog => bind_eq_error_iff.2 (.inl hcheck)⟩

/-- A manifest with such entries is refused when it has been read. -/
theorem Stack.exists_fault_of_load {text : String} {manifest : Manifest}
    (htext : Manifest.ofText text = .ok manifest)
    (h : LayerEntry.Misidentified manifest.layers) :
    ∃ fault, ∀ read, readText read path = .ok text →
      load read path = .error (.manifest fault) := by
  obtain ⟨fault, hcheck⟩ := LayerEntry.exists_checkAll_eq_error h
  -- the early check is made after relative paths have been changed
  have hrebased : LayerEntry.checkAll (manifest.rebase (Path.parent path)).layers =
      .error (.manifest fault) := by
    rw [LayerEntry.checkAll_congr (LayerEntry.map_id_rebase _ _), hcheck]
  refine ⟨fault, fun read hread => ?_⟩
  simp [load, Manifest.load, hread, htext, hrebased]

/-! ## The two checks -/

/-- The early check and the later one accept the same identifiers, and the later one has nothing
left to refuse. -/
theorem identifierChecks_agree :
    (∀ entries, LayerEntry.ChecksAgree entries) ∧ ∀ path, Manifest.ChecksAgree path := by
  constructor
  · intro entries
    exact
      { passes_iff := LayerEntry.checkAll_eq_ok_iff_tellsApart
        passes_iff_of_layers := fun layers => LayerEntry.checkAll_eq_ok_iff_of_map_eq
        not_blamed := fun read catalog => Stack.failsOnly_ofParts_not_blames read catalog entries
        refused := Stack.exists_fault_of_misidentified }
  · intro path
    exact
      { not_blamed := fun read => Stack.failsOnly_load_not_blames read path
        refused := fun text manifest => Stack.exists_fault_of_load }

end LayeredFlags
