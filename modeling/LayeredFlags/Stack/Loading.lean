import LayeredFlags.Digest.Sha256
import LayeredFlags.LayerSet
import LayeredFlags.LayerText.Document
import LayeredFlags.Stack.Catalog
import LayeredFlags.Stack.LayerSource
import LayeredFlags.Stack.Manifest
/-!
# Loading a Stack

A stack is a registry with the layers that are to be applied to it. It is loaded from a
catalog and the files of its layers, which a manifest may name. The identifiers of the layers
are checked before any other file is read.
-/

namespace LayeredFlags

/-- The layer that a layer text makes. -/
def LayerText.Document.toLayer (document : LayerText.Document) (id : String)
    (priority : Int64) : Except FlagError Layer :=
  Layer.build id priority document.assertions document.settings

/-- A layer and where it comes from. -/
structure LoadedLayer where
  /-- The layer. -/
  layer : Layer
  /-- Where it comes from. -/
  source : LayerSource

namespace LoadedLayer

/-- The source of a layer that was read from some bytes. -/
def sourceOf (layer : Layer) (path : String) (bytes : List UInt8) : LayerSource :=
  { id := layer.identifier
    priority := layer.priority
    path := path
    digest := Sha256.hexDigest bytes
    assertions := layer.assertions.length
    settings := layer.settings.length }

/-- Read the bytes of a layer text. -/
def readDocument (bytes : List UInt8) : Except LayerText.Error LayerText.Document :=
  match Utf8.decode? bytes with
  | some text => LayerText.parse text
  | none => .error ⟨Utf8.stopLine bytes, .notUtf8⟩

/-- Load the layer of an entry. -/
def load (read : Reader) (entry : LayerEntry) : Except StackError LoadedLayer := do
  let bytes ← (read entry.path).mapError (.file entry.path)
  let document ← (readDocument bytes).mapError (.layerText entry.path)
  let layer ← liftFlag (document.toLayer entry.id entry.priority)
  return { layer, source := sourceOf layer entry.path bytes }

end LoadedLayer

/-- A registry with the layers to be applied to it. -/
structure Stack where
  /-- The known flags. -/
  registry : Registry
  /-- The layers. -/
  layers : LayerSet
  /-- Where the layers come from, lowest priority first. -/
  sources : List LayerSource
deriving DecidableEq

namespace Stack

/-- The sources by ascending priority. -/
def arrangeSources (sources : List LayerSource) : List LayerSource :=
  sources.mergeSort fun first second => decide (first.priority ≤ second.priority)

/-- Load a stack from a catalog and the files of some layers. -/
def ofParts (read : Reader) (catalog : String) (entries : List LayerEntry) :
    Except StackError Stack := do
  LayerEntry.checkAll entries
  let registry ← Catalog.load read catalog
  let loaded ← entries.mapM (LoadedLayer.load read)
  let layers ← liftFlag (LayerSet.ofLayers (loaded.map (·.layer)))
  return { registry, layers, sources := arrangeSources (loaded.map (·.source)) }

/-- Load the stack that a manifest names. -/
def load (read : Reader) (path : String) : Except StackError Stack := do
  let manifest ← Manifest.load read path
  ofParts read manifest.catalog manifest.layers

end Stack

end LayeredFlags
