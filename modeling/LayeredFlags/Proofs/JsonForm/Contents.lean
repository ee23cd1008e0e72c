import LayeredFlags.JsonForm.Contents
import LayeredFlags.Output.Rendering
import LayeredFlags.Proofs.Json.Fields
/-!
# JSON Forms Are Read Back

What is written of a flag, a setting, a violation or a source tells all of it, and still does
when its fields have been sorted.

## Main results

- `Entry.ofJson?_toJson`, `ResolvedSetting.ofJson?_toJson`, `Violation.ofJson?_encode`,
  `LayerSource.ofJson?_encode`, `Assertion.ofJson?_encode` and `Setting.ofJson?_encode`: every
  record is read back from its JSON form.
- `Entry.ofJson?_canonical`, `ResolvedSetting.ofJson?_canonical`: the canonical form of a value
  tells what the value tells.
-/

namespace LayeredFlags

open JsonCodec

/-! ## Words and numbers -/

@[simp]
theorem Json.text?_string (text : String) : (Json.string text).text? = some text := rfl

@[simp]
theorem Json.count?_integer (count : Nat) : (Json.integer count).count? = some count := rfl

@[simp]
theorem FlagState.ofJson?_toText (state : FlagState) :
    ofJson? (.string state.toText) = some state := by
  cases state <;> rfl

@[simp]
theorem ConstraintKind.ofJson?_toText (kind : ConstraintKind) :
    ofJson? (.string kind.toText) = some kind := by
  cases kind <;> rfl

/-- A number of 64 bits is within the bounds that it is read with. -/
@[simp]
theorem JsonCodec.decode?_toInt (number : Int64) :
    decode? (.integer number.toInt) = some number := by
  have hbounds : Int64.minValue.toInt ≤ number.toInt ∧ number.toInt ≤ Int64.maxValue.toInt :=
    ⟨number.minValue_le_toInt, number.toInt_le⟩
  simp only [decode?, if_pos hbounds, Int64.ofInt_toInt]

/-! ## Lists -/

/-- The items of a written list are read back if each of them is. -/
theorem Json.items?_encode {α : Type} [JsonCodec α] {read : Json → Option α}
    (h : ∀ value, read (encode value) = some value) (values : List α) :
    items? read (encode values) = some values := by
  simpa [encode] using items?_array_map h values

/-! ## Records -/

theorem Assertion.ofJson?_encode (assertion : Assertion) :
    ofJson? (encode assertion) = some assertion := by
  simp [ofJson?, encode, Json.at?]

theorem Setting.ofJson?_encode (setting : Setting) : ofJson? (encode setting) = some setting := by
  simp [ofJson?, encode, Json.at?]

theorem Violation.ofJson?_encode (violation : Violation) :
    ofJson? (encode violation) = some violation := by
  simp [ofJson?, encode, Json.at?]

theorem LayerSource.ofJson?_encode (source : LayerSource) :
    ofJson? (encode source) = some source := by
  simp [ofJson?, encode, Json.at?]

theorem ResolvedSetting.ofJson?_toJson (setting : ResolvedSetting) :
    ofJson? setting.toJson = some setting := by
  simp [ofJson?, toJson, encode, Json.at?]

/-- The listing of a flag tells its name, its state and its source. -/
theorem Entry.ofListed?_listed (entry : Entry) :
    ofListed? entry.listed = some (entry.flag, entry.state, entry.source) := by
  simp [ofListed?, listed, encode, Json.at?]

/-- Of an entry nothing is lost, though no overridden layers are not written. -/
theorem Entry.ofJson?_toJson (entry : Entry) : ofJson? entry.toJson = some entry := by
  obtain ⟨flag, state, source, overridden⟩ := entry
  cases overridden with
  | nil => simp [ofJson?, toJson, encode, Json.at?, Json.atOr?]
  | cons id rest =>
    have hread : Json.items? Json.text? (encode (id :: rest)) = some (id :: rest) :=
      Json.items?_encode (fun _ => rfl) (id :: rest)
    simp only [encode, List.map_cons] at hread
    simp [ofJson?, toJson, encode, Json.at?, Json.atOr?, hread]

/-! ## Canonical forms -/

theorem FlagState.ofJson?_canonical (json : Json) : ofJson? json.canonical = ofJson? json := by
  rw [ofJson?, ofJson?, Json.text?_canonical]

theorem Entry.ofJson?_canonical (json : Json) : ofJson? json.canonical = ofJson? json := by
  simp only [ofJson?, Json.at?_canonical Json.text?_canonical,
    Json.at?_canonical FlagState.ofJson?_canonical,
    Json.atOr?_canonical (Json.items?_canonical Json.text?_canonical)]

theorem ResolvedSetting.ofJson?_canonical (json : Json) :
    ofJson? json.canonical = ofJson? json := by
  simp only [ofJson?, Json.at?_canonical Json.text?_canonical]

end LayeredFlags
