import LayeredFlags.Json.Codec
/-!
# Sources of Layers

Where a loaded layer comes from: its file, the digest of the bytes of that file, and how
much the layer says.
-/

namespace LayeredFlags

/-- The provenance of one loaded layer. -/
structure LayerSource where
  /-- The identifier of the layer. -/
  id : String
  /-- The priority of the layer. -/
  priority : Int64
  /-- The path of the file that the layer was read from. -/
  path : String
  /-- The SHA-256 digest of the bytes of the file, in hexadecimal. -/
  digest : String
  /-- The number of flags that the layer asserts. -/
  assertions : Nat
  /-- The number of constants that the layer sets. -/
  settings : Nat
deriving DecidableEq, Repr

open JsonCodec

instance : JsonCodec LayerSource where
  encode source := .object
    [("id", encode source.id),
      ("priority", encode source.priority),
      ("path", encode source.path),
      ("digest", encode source.digest),
      ("assertions", encode source.assertions),
      ("settings", encode source.settings)]
  decode? json := do
    let record ←
      json.record? false ["id", "priority", "path", "digest", "assertions", "settings"]
    return {
      id := ← required? record "id"
      priority := ← required? record "priority"
      path := ← required? record "path"
      digest := ← required? record "digest"
      assertions := ← required? record "assertions"
      settings := ← required? record "settings" }

end LayeredFlags
