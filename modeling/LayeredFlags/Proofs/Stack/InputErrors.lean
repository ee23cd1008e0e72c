import LayeredFlags.Command.Basic
import LayeredFlags.Proofs.Outcome
/-!
# Input Errors

A command ends with the exit code two if the configuration breaks constraints, and with one for
every other error. Only the gate can find broken constraints: whatever else goes wrong from the
first file that is read to the last layer that is applied is an error of the input.

## Main definitions

* `StackError.AboutInput`, `FlagError.AboutInput`: the exit code of the error is one.

## Main results

* `StackChoice.failsOnly_load`: loading a stack fails with errors of the input only;
* `Registry.failsOnly_resolve`: so does resolving it;
* `Command.failsOnly_resolved`: so do both together.
-/

namespace LayeredFlags

/-- The error is one of the input. -/
def StackError.AboutInput (error : StackError) : Prop :=
  error.exitCode = 1

/-- The error is one of the input. -/
def FlagError.AboutInput (error : FlagError) : Prop :=
  (StackError.flag error).AboutInput

/-- An error about flags stays one of the input when it becomes an error of a stack. -/
theorem failsOnly_liftFlag {α : Type} {outcome : Except FlagError α}
    (h : FailsOnly FlagError.AboutInput outcome) :
    FailsOnly StackError.AboutInput (liftFlag outcome) := by
  rw [liftFlag]
  exact FailsOnly.mapError h

/-! ## Building -/

/-- What is wrong with a constraint is wrong with the input. -/
theorem Registry.aboutInput_of_constraintError? {known : List String} {flag : String}
    {constraint : Constraint} {error : FlagError}
    (h : constraintError? known flag constraint = some error) : error.AboutInput := by
  unfold constraintError? at h
  split at h
  · cases h
    rfl
  · split at h
    · cases h
      rfl
    · cases h

theorem Registry.failsOnly_ofDefinitions (definitions : List FlagDefinition) :
    FailsOnly FlagError.AboutInput (ofDefinitions definitions) := by
  unfold ofDefinitions
  split
  · exact failsOnly_error rfl
  · split
    · next error hfault =>
      obtain ⟨definition, -, hdefinition⟩ := List.exists_of_findSome?_eq_some hfault
      obtain ⟨constraint, -, hconstraint⟩ := List.exists_of_findSome?_eq_some hdefinition
      exact failsOnly_error (aboutInput_of_constraintError? hconstraint)
    · exact failsOnly_ok _

theorem Layer.failsOnly_build (identifier : String) (priority : Int64)
    (assertions : List Assertion) (settings : List Setting) :
    FailsOnly FlagError.AboutInput (build identifier priority assertions settings) := by
  refine FailsOnly.bind ?_ fun layer => ?_
  · unfold ofAssertions
    split
    · split
      · exact failsOnly_error rfl
      · exact failsOnly_ok _
    · exact failsOnly_error rfl
  · unfold withSettings
    split
    · exact failsOnly_error rfl
    · exact failsOnly_ok _

theorem LayerSet.failsOnly_ofLayers (layers : List Layer) :
    FailsOnly FlagError.AboutInput (ofLayers layers) := by
  unfold ofLayers
  split
  · exact failsOnly_error rfl
  · split
    · exact failsOnly_error rfl
    · exact failsOnly_ok _

/-! ## Resolving -/

/-- Resolution stops at flags that are not known and at constants that are flags, and at
nothing else. -/
theorem Registry.failsOnly_resolve (registry : Registry) (layerSet : LayerSet) :
    FailsOnly FlagError.AboutInput (registry.resolve layerSet) := by
  refine FailsOnly.foldlM (fun configuration layer => ?_) _ _
  refine FailsOnly.bind ?_ fun asserted => ?_
  · refine FailsOnly.foldlM (fun configuration assertion => ?_) _ _
    unfold Configuration.assert
    split
    · exact failsOnly_ok _
    · exact failsOnly_error rfl
  · refine FailsOnly.foldlM (fun configuration setting => ?_) _ _
    unfold Configuration.set
    split
    · exact failsOnly_error rfl
    · exact failsOnly_ok _

theorem Stack.failsOnly_resolve (stack : Stack) :
    FailsOnly FlagError.AboutInput stack.resolve :=
  (stack.registry.failsOnly_resolve stack.layers).bind fun _ => failsOnly_ok _

/-! ## Loading -/

theorem Catalog.failsOnly_toRegistry (catalog : Catalog) :
    FailsOnly StackError.AboutInput catalog.toRegistry := by
  unfold toRegistry
  split
  · exact failsOnly_error rfl
  · split
    · exact failsOnly_error rfl
    · exact failsOnly_liftFlag (Registry.failsOnly_ofDefinitions _)

theorem LayerEntry.failsOnly_checkAll (entries : List LayerEntry) :
    FailsOnly StackError.AboutInput (checkAll entries) := by
  unfold checkAll
  split
  · exact failsOnly_error rfl
  · exact failsOnly_ok _

/-- A file that cannot be read, or that does not hold what it should, is a fault of the input. -/
theorem failsOnly_mapError {ε α : Type} (wrap : ε → StackError)
    (h : ∀ error, (wrap error).AboutInput) (outcome : Except ε α) :
    FailsOnly StackError.AboutInput (outcome.mapError wrap) :=
  FailsOnly.mapError fun error _ => h error

variable (read : Reader)

theorem Catalog.failsOnly_load (path : String) :
    FailsOnly StackError.AboutInput (Catalog.load read path) := by
  refine (failsOnly_mapError (.file path) (fun _ => rfl) _).bind fun text => ?_
  refine (failsOnly_mapError (.toml path) (fun _ => rfl) _).bind fun catalog => ?_
  exact catalog.failsOnly_toRegistry

theorem Manifest.failsOnly_load (path : String) :
    FailsOnly StackError.AboutInput (Manifest.load read path) := by
  refine (failsOnly_mapError (.file path) (fun _ => rfl) _).bind fun text => ?_
  refine (failsOnly_mapError (.toml path) (fun _ => rfl) _).bind fun manifest => ?_
  exact (LayerEntry.failsOnly_checkAll _).bind fun _ => failsOnly_ok _

theorem LoadedLayer.failsOnly_load (entry : LayerEntry) :
    FailsOnly StackError.AboutInput (LoadedLayer.load read entry) := by
  refine (failsOnly_mapError (.file entry.path) (fun _ => rfl) _).bind fun bytes => ?_
  refine (failsOnly_mapError (.layerText entry.path) (fun _ => rfl) _).bind fun document => ?_
  refine (failsOnly_liftFlag (Layer.failsOnly_build _ _ _ _)).bind fun layer => ?_
  exact failsOnly_ok _

theorem Stack.failsOnly_ofParts (catalog : String) (entries : List LayerEntry) :
    FailsOnly StackError.AboutInput (Stack.ofParts read catalog entries) := by
  refine (LayerEntry.failsOnly_checkAll entries).bind fun _ => ?_
  refine (Catalog.failsOnly_load read catalog).bind fun registry => ?_
  refine (FailsOnly.mapM fun entry _ => LoadedLayer.failsOnly_load read entry).bind fun loaded => ?_
  exact (failsOnly_liftFlag (LayerSet.failsOnly_ofLayers _)).bind fun _ => failsOnly_ok _

/-- However a stack is named, it fails to load for errors of the input only. -/
theorem StackChoice.failsOnly_load (choice : StackChoice) :
    FailsOnly StackError.AboutInput (choice.load read) := by
  cases choice with
  | manifest path =>
    exact (Manifest.failsOnly_load read path).bind fun _ => Stack.failsOnly_ofParts read _ _
  | parts catalog layers => exact Stack.failsOnly_ofParts read catalog layers

/-- A stack that is loaded and resolved fails for errors of the input only. -/
theorem Command.failsOnly_resolved (choice : StackChoice) :
    FailsOnly StackError.AboutInput (resolved read choice) := by
  refine (StackChoice.failsOnly_load read choice).bind fun stack => ?_
  exact (failsOnly_liftFlag stack.failsOnly_resolve).bind fun _ => failsOnly_ok _

end LayeredFlags
