import LayeredFlags.Json.Canonical
import LayeredFlags.Json.Fields
/-!
# Fields of Canonical Values

Sorting the fields of objects changes nothing that is read by name.

## Main results

- `Json.at?_canonical`, `Json.atOr?_canonical`, `Json.items?_canonical`: each way to read a value
  reads the same of its canonical form, if the parts are read so.
- `Json.items?_array_map`: the items of an array are read back if each of them is.
-/

namespace LayeredFlags.Json

variable {α β : Type}

/-! ## Canonical forms -/

theorem canonicalItems_eq_map (items : List Json) : canonicalItems items = items.map canonical := by
  induction items with
  | nil => rfl
  | cons item rest ih => rw [canonicalItems, ih, List.map_cons]

theorem canonicalFields_eq_map (fields : List (String × Json)) :
    canonicalFields fields = fields.map fun field => (field.1, field.2.canonical) := by
  induction fields with
  | nil => rfl
  | cons field rest ih => rw [canonicalFields, ih, List.map_cons]

/-- The canonical form has the canonical values under every name. Which of several values of one
name comes first may change. -/
theorem values_canonical (name : String) (json : Json) :
    (json.canonical.values name).Perm ((json.values name).map canonical) := by
  cases json with
  | object fields =>
    have hsorted : (sortFields (canonicalFields fields)).Perm (canonicalFields fields) :=
      List.mergeSort_perm _ _
    have hvalues := (hsorted.filter (·.1 == name)).map (·.2)
    simpa [canonical, values, canonicalFields_eq_map, List.filter_map, Function.comp_def]
      using hvalues
  | _ => exact .refl _

/-! ## Reading canonical forms -/

section Reading

variable {read : Json → Option α} (h : ∀ json, read json.canonical = read json)
include h

theorem at?_canonical (name : String) (json : Json) :
    json.canonical.at? name read = json.at? name read := by
  have hperm := values_canonical name json
  simp only [at?]
  cases hvalues : json.values name with
  | nil =>
    rw [hvalues, List.map_nil] at hperm
    rw [hperm.eq_nil]
  | cons value rest =>
    rw [hvalues] at hperm
    cases rest with
    | nil =>
      rw [List.map_singleton] at hperm
      rw [hperm.eq_singleton]
      exact h value
    | cons next rest =>
      -- two values under one name, also in the canonical form
      have hlength := hperm.length_eq
      match hcanonical : json.canonical.values name with
      | [] | [_] => simp [hcanonical] at hlength
      | _ :: _ :: _ => rfl

theorem atOr?_canonical (absent : α) (name : String) (json : Json) :
    json.canonical.atOr? absent name read = json.atOr? absent name read := by
  have hempty := (values_canonical name json).isEmpty_eq
  rw [List.isEmpty_map] at hempty
  rw [atOr?, atOr?, hempty, at?_canonical h]

theorem items?_canonical (json : Json) : items? read json.canonical = items? read json := by
  cases json with
  | array items =>
    simp only [canonical, items?, canonicalItems_eq_map, List.mapM_map]
    exact congrArg (fun f => List.mapM f items) (funext h)
  | _ => rfl

end Reading

@[simp]
theorem text?_canonical (json : Json) : json.canonical.text? = json.text? := by
  cases json <;> rfl

/-! ## Arrays of forms -/

theorem items?_array_map {write : α → Json} {read : Json → Option β} {f : α → β}
    (h : ∀ value, read (write value) = some (f value)) (values : List α) :
    items? read (.array (values.map write)) = some (values.map f) := by
  have hread : read ∘ write = fun value => some (f value) := funext h
  rw [items?, List.mapM_map, hread]
  exact List.mapM_pure (m := Option)

end LayeredFlags.Json
