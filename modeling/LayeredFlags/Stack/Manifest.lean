import LayeredFlags.Files.Path
import LayeredFlags.Stack.Error
import LayeredFlags.Stack.LayerEntry
import LayeredFlags.Toml.Document
/-!
# Manifests

A manifest is a TOML file that names the catalog of a stack and lists its layers, in a table
named `layer` for each. Relative paths in it start at the directory of the manifest.
-/

namespace LayeredFlags

open JsonCodec

/-- The content of a manifest. -/
structure Manifest where
  /-- The path of the catalog. -/
  catalog : String
  /-- The layers, in order. -/
  layers : List LayerEntry
deriving DecidableEq, Repr

instance : JsonCodec Manifest where
  encode manifest := .object
    [("catalog", encode manifest.catalog), ("layer", encode manifest.layers)]
  decode? json := do
    let record ← json.record? true ["catalog", "layer"]
    return {
      catalog := ← required? record "catalog"
      layers := ← optional? record "layer" [] }

/-- The first fault of some entries, if the identifiers in `seen` are taken. -/
def LayerEntry.firstFault? (seen : List String) : List LayerEntry → Option ManifestFault
  | [] => none
  | entry :: rest =>
    if Text.isAllBlank entry.id then some .blankId
    else if entry.id = defaultSource then some (.reservedId entry.id)
    else if entry.id ∈ seen then some (.repeatedId entry.id)
    else firstFault? (entry.id :: seen) rest

/-- Check the identifiers of some entries. They have to be distinct, and no layer may be
without a legal one. -/
def LayerEntry.checkAll (entries : List LayerEntry) : Except StackError Unit :=
  match LayerEntry.firstFault? [] entries with
  | some fault => .error (.manifest fault)
  | none => .ok ()

namespace Manifest

/-- The form of a manifest. -/
def layout : Toml.Layout :=
  { title := "struct StackManifest"
    fields :=
      [("catalog", Toml.checked Toml.readPath),
        ("layer", Toml.checked (Toml.readList LayerEntry.ofToml))] }

/-- Read the text of a manifest. -/
def ofText (text : String) : Except Toml.Error Manifest :=
  match Toml.parse text with
  | none => .error .notToml
  | some fields => Except.mapError .shape do
    let record ← layout.checkTable fields
    return {
      catalog := ← layout.required "catalog" Toml.readPath record
      layers := ← layout.optional "layer" (Toml.readList LayerEntry.ofToml) [] record }

/-- The manifest with its relative paths taken from a base. -/
def rebase (base : String) (manifest : Manifest) : Manifest :=
  { catalog := Path.join base manifest.catalog
    layers := manifest.layers.map fun entry => { entry with path := Path.join base entry.path } }

/-- Load a manifest. Its relative paths are taken from its own directory, and the identifiers
of its layers are checked. -/
def load (read : Reader) (path : String) : Except StackError Manifest := do
  let text ← (readText read path).mapError (.file path)
  let manifest ← (ofText text).mapError (.toml path)
  let rebased := manifest.rebase (Path.parent path)
  LayerEntry.checkAll rebased.layers
  return rebased

end Manifest

end LayeredFlags
