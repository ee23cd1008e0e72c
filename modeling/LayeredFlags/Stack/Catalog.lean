import LayeredFlags.Flag.Name
import LayeredFlags.JsonForm.Flags
import LayeredFlags.Registry
import LayeredFlags.Stack.Error
import LayeredFlags.Toml.Document
/-!
# Catalogs

A catalog is a TOML file that describes the flags of a registry, in a table named `flag` for
each.
-/

namespace LayeredFlags

open JsonCodec

/-- One flag of a catalog. -/
structure CatalogFlag where
  /-- The name of the flag. -/
  name : String
  /-- The state of the flag when no layer asserts it. -/
  default : FlagState
  /-- Free text. -/
  description : String := ""
  /-- The flags that must not be enabled together with this one. -/
  excludes : List String := []
  /-- The flags that must be enabled if this one is. -/
  requires : List String := []
deriving DecidableEq, Repr

instance : JsonCodec CatalogFlag where
  encode flag := .object
    [("name", encode flag.name),
      ("default", encode flag.default),
      ("description", encode flag.description),
      ("excludes", encode flag.excludes),
      ("requires", encode flag.requires)]
  decode? json := do
    let record ←
      json.record? true ["name", "default", "description", "excludes", "requires"]
    return {
      name := ← required? record "name"
      default := ← required? record "default"
      description := ← optional? record "description" ""
      excludes := ← optional? record "excludes" []
      requires := ← optional? record "requires" [] }

namespace CatalogFlag

/-- Read the state of a flag. -/
def readState : Toml.Reading FlagState :=
  Toml.readChoice [("enabled", .enabled), ("disabled", .disabled)]

/-- Read a list of names. -/
def readNames : Toml.Reading (List String) :=
  Toml.readList Toml.readString

/-- The form of a flag in a catalog. -/
def layout : Toml.Layout :=
  { title := "struct CatalogFlag"
    fields :=
      [("name", Toml.checked Toml.readString),
        ("default", Toml.checked readState),
        ("description", Toml.checked Toml.readString),
        ("excludes", Toml.checked readNames),
        ("requires", Toml.checked readNames)] }

/-- Read a flag of a catalog. -/
def ofToml : Toml.Reading CatalogFlag := fun value => do
  let record ← layout.record value
  return {
    name := ← layout.required "name" Toml.readString record
    default := ← layout.required "default" readState record
    description := ← layout.optional "description" Toml.readString "" record
    excludes := ← layout.optional "excludes" readNames [] record
    requires := ← layout.optional "requires" readNames [] record }

/-- The definition of the flag. Its exclusions come before its requirements. -/
def toDefinition (flag : CatalogFlag) : FlagDefinition :=
  { name := flag.name
    defaultState := flag.default
    description := flag.description
    constraints := flag.excludes.map .excludes ++ flag.requires.map .requires }

end CatalogFlag

/-- The content of a catalog. -/
structure Catalog where
  /-- The flags, in order. -/
  flags : List CatalogFlag
deriving DecidableEq, Repr

instance : JsonCodec Catalog where
  encode catalog := .object [("flag", encode catalog.flags)]
  decode? json := do
    let record ← json.record? true ["flag"]
    return { flags := ← optional? record "flag" [] }

namespace Catalog

/-- The form of a catalog. -/
def layout : Toml.Layout :=
  { title := "struct CatalogFile"
    fields := [("flag", Toml.checked (Toml.readList CatalogFlag.ofToml))] }

/-- Read the text of a catalog. -/
def ofText (text : String) : Except Toml.Error Catalog :=
  match Toml.parse text with
  | none => .error .notToml
  | some fields => Except.mapError .shape do
    let record ← layout.checkTable fields
    return { flags := ← layout.optional "flag" (Toml.readList CatalogFlag.ofToml) [] record }

/-- The registry that a catalog describes. An empty catalog is found first, then a name that
is no identifier, then what a registry cannot have. -/
def toRegistry (catalog : Catalog) : Except StackError Registry :=
  if catalog.flags.isEmpty then .error (.catalog .noFlags)
  else match catalog.flags.find? (!FlagName.isValid ·.name) with
    | some flag => .error (.catalog (.invalidName flag.name))
    | none => liftFlag (Registry.ofDefinitions (catalog.flags.map CatalogFlag.toDefinition))

/-- Load the registry that a file describes. -/
def load (read : Reader) (path : String) : Except StackError Registry := do
  let text ← (readText read path).mapError (.file path)
  let catalog ← (ofText text).mapError (.toml path)
  catalog.toRegistry

end Catalog

end LayeredFlags
