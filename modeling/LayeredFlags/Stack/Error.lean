import LayeredFlags.Files.System
import LayeredFlags.Flag.Error
import LayeredFlags.LayerText.Error
import LayeredFlags.Toml.Record
/-!
# Errors of a Stack

What can go wrong from the first file that is read to the text that is written.
-/

namespace LayeredFlags

/-- What is wrong with a catalog. -/
inductive CatalogFault where
  /-- The catalog has no flag. -/
  | noFlags
  /-- The name of a flag is no identifier. -/
  | invalidName (name : String)
deriving DecidableEq, Repr

/-- The wording of a fault of a catalog. -/
def CatalogFault.message : CatalogFault → String
  | .noFlags => "catalog defines no flags"
  | .invalidName name => s!"invalid flag name '{name}'"

/-- What is wrong with the layer entries of a manifest. -/
inductive ManifestFault where
  /-- An identifier is blank. -/
  | blankId
  /-- An identifier is the word for no layer. -/
  | reservedId (id : String)
  /-- Two entries have the same identifier. -/
  | repeatedId (id : String)
deriving DecidableEq, Repr

/-- The wording of a fault of a manifest. -/
def ManifestFault.message : ManifestFault → String
  | .blankId => "layer id cannot be empty"
  | .reservedId id => s!"layer id '{id}' is reserved"
  | .repeatedId id => s!"layer id '{id}' is used more than once"

/-- An error of loading or resolving a stack, or of writing its output. -/
inductive StackError where
  /-- A file cannot be read or written. -/
  | file (path : String) (fault : FileFault)
  /-- A layer text is at fault. -/
  | layerText (path : String) (error : LayerText.Error)
  /-- A catalog or a manifest is not TOML, or not of the right form. -/
  | toml (path : String) (error : Toml.Error)
  /-- A catalog is at fault. -/
  | catalog (fault : CatalogFault)
  /-- The layer entries are at fault. -/
  | manifest (fault : ManifestFault)
  /-- The flags are at fault. -/
  | flag (error : FlagError)
deriving DecidableEq, Repr

namespace StackError

/-- The wording of an error. -/
def message : StackError → String
  | .file path fault => s!"failed to read {path}: {fault.message}"
  | .layerText path error => s!"{path}: {error.message}"
  | .toml path error => s!"failed to parse {path}: {error.message}"
  | .catalog fault => s!"invalid catalog: {fault.message}"
  | .manifest fault => s!"invalid manifest: {fault.message}"
  | .flag error => error.message

/-- The exit code of a command that ends with an error: two if constraints are broken, else
one. -/
def exitCode : StackError → Nat
  | .flag (.constraintViolation _) => 2
  | _ => 1

end StackError

/-- An error about flags, as an error of a stack. -/
def liftFlag {α : Type} (result : Except FlagError α) : Except StackError α :=
  result.mapError .flag

end LayeredFlags
