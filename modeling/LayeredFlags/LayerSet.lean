import LayeredFlags.Layer
/-!
# Layer Sets

A layer set holds layers with distinct identifiers in strictly ascending priority. Both
facts are part of the type. It is built from layers in any order.
-/

namespace LayeredFlags

/-- Layers in strictly ascending priority. -/
structure LayerSet where
  /-- The layers, lowest priority first. -/
  layers : List Layer
  /-- No two layers have the same identifier. -/
  identifiers_nodup : (layers.map (·.identifier)).Nodup
  /-- Every layer has a higher priority than those before it. -/
  ascending : layers.Pairwise (·.priority < ·.priority)
deriving DecidableEq

namespace LayerSet

/-- The first layer may stand before the second one. -/
def inOrder (first second : Layer) : Bool :=
  decide (first.priority ≤ second.priority)

/-- The layers by ascending priority. Layers of one priority keep their order. -/
def arrange (layers : List Layer) : List Layer :=
  layers.mergeSort inOrder

/-- The first two neighbours that have the same priority. -/
def firstClash? : List Layer → Option (Layer × Layer)
  | first :: second :: rest =>
    if first.priority = second.priority then some (first, second)
    else firstClash? (second :: rest)
  | _ => none

/-- Neighbours in ascending order that do not clash ascend strictly. -/
theorem ascending_of_firstClash?_eq_none {layers : List Layer}
    (hsorted : layers.Pairwise (·.priority ≤ ·.priority)) (h : firstClash? layers = none) :
    layers.Pairwise (·.priority < ·.priority) := by
  induction layers with
  | nil => exact .nil
  | cons first rest ih =>
    cases rest with
    | nil => exact List.pairwise_singleton _ _
    | cons second rest =>
      simp only [firstClash?] at h
      split at h
      · cases h
      · next hne =>
        obtain ⟨hfirst, htail⟩ := List.pairwise_cons.1 hsorted
        have hrest := ih htail h
        have hlt : first.priority < second.priority :=
          Int64.lt_of_le_of_ne (hfirst second (by simp)) hne
        refine List.pairwise_cons.2 ⟨fun third hthird => ?_, hrest⟩
        rcases List.mem_cons.1 hthird with rfl | hmem
        · exact hlt
        · exact Int64.lt_trans hlt ((List.pairwise_cons.1 hrest).1 third hmem)

/-- Layers are put in order by their priorities, which can be compared along a chain. -/
theorem inOrder_trans (first second third : Layer) (h : inOrder first second = true)
    (h' : inOrder second third = true) : inOrder first third = true := by
  simp only [inOrder, decide_eq_true_eq] at *
  exact Int64.le_trans h h'

/-- Of two layers one may stand before the other. -/
theorem inOrder_total (first second : Layer) :
    (inOrder first second || inOrder second first) = true := by
  simp only [inOrder, Bool.or_eq_true, decide_eq_true_eq]
  exact Int64.le_total first.priority second.priority

/-- Arranged layers ascend. -/
theorem pairwise_arrange (layers : List Layer) :
    (arrange layers).Pairwise (·.priority ≤ ·.priority) := by
  have h := List.pairwise_mergeSort inOrder_trans inOrder_total layers
  exact h.imp fun hab => by simpa [inOrder] using hab

/-- Arranged layers are the given layers in another order. -/
theorem perm_arrange (layers : List Layer) : (arrange layers).Perm layers :=
  List.mergeSort_perm layers inOrder

/-- Build a layer set from layers in any order. A repeated identifier is found before a
repeated priority. -/
def ofLayers (layers : List Layer) : Except FlagError LayerSet :=
  match hrepeat : firstRepeat? (layers.map (·.identifier)) with
  | some identifier => .error (.duplicateLayerIdentifier identifier)
  | none =>
    match hclash : firstClash? (arrange layers) with
    | some (first, second) =>
      .error (.duplicatePriority first.priority first.identifier second.identifier)
    | none =>
      .ok
        { layers := arrange layers
          identifiers_nodup :=
            ((perm_arrange layers).map (·.identifier)).nodup_iff.2
              (firstRepeat?_eq_none_iff.1 hrepeat)
          ascending := ascending_of_firstClash?_eq_none (pairwise_arrange layers) hclash }

/-- The layer with the given identifier, if there is one. -/
def find? (layerSet : LayerSet) (identifier : String) : Option Layer :=
  layerSet.layers.find? (·.identifier == identifier)

end LayerSet

end LayeredFlags
