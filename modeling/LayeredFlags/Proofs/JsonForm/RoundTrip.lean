import LayeredFlags.Proofs.Json.Reordering
import LayeredFlags.Proofs.Json.Writing
import LayeredFlags.Proofs.JsonForm.Contents
import LayeredFlags.Stack.Catalog
import LayeredFlags.Stack.Manifest
/-!
# Round Trips through JSON

Every type that has a codec is read back from its JSON texts, and the order of the fields in them
does not matter. Both are laws of codecs, with one instance for each type. A record is read field
by field, so that the laws of its fields are all that its own laws need. Counts are the exception:
they are read back only if they have 64 bits, and so the source of a layer is, too.

## Main definitions

* `UnorderedCodec`, `LawfulCodec`: the laws;
* `JsonCodec.write`, `JsonCodec.read?`, `JsonCodec.recode?`: texts of values;
* `JsonCodec.Lossless`: what the texts of the values of a type preserve.

## Main results

* `JsonCodec.Lossless.of_codec`: the laws of a codec make its texts lossless;
* `lossless_codecs`: the texts of flags, constraints, layers, violations, catalogs and manifests
  and of all their parts are lossless.
-/

namespace LayeredFlags

open JsonCodec

variable {α : Type}

/-- A codec that reads the same in whichever order the fields of objects stand. -/
class UnorderedCodec (α : Type) [JsonCodec α] : Prop where
  /-- Moving fields makes no difference. -/
  decode?_reordered {json other : Json} (h : Json.Reordered json other) :
    decode? json = (decode? other : Option α)

/-- A codec that, besides, reads every value back from what is written of it. -/
class LawfulCodec (α : Type) [JsonCodec α] : Prop extends UnorderedCodec α where
  /-- A written value is read as that value. -/
  decode?_encode (value : α) : decode? (encode value) = some value

export UnorderedCodec (decode?_reordered)
export LawfulCodec (decode?_encode)

attribute [simp] decode?_encode

/-! ## Fields of records -/

section Fields

variable [JsonCodec α]

@[simp]
theorem required?_cons (field : String) (json : Json) (rest : List (String × Json))
    (name : String) :
    (required? ((field, json) :: rest) name : Option α) =
      if name = field then decode? json else required? rest name := by
  by_cases h : name = field
  · simp [required?, h]
  · simp [required?, List.lookup_cons, beq_eq_false_iff_ne.2 h, h]

@[simp]
theorem optional?_cons (field : String) (json : Json) (rest : List (String × Json))
    (name : String) (absent : α) :
    optional? ((field, json) :: rest) name absent =
      if name = field then decode? json else optional? rest name absent := by
  by_cases h : name = field
  · simp [optional?, h]
  · simp [optional?, List.lookup_cons, beq_eq_false_iff_ne.2 h, h]

variable [UnorderedCodec α] {record other : List (String × Json)}

theorem required?_eq_of_sameRecord (h : Json.SameRecord record other) (name : String) :
    required? record name = (required? other name : Option α) := by
  have hvalue := h name
  rw [required?, required?]
  generalize record.lookup name = first at hvalue ⊢
  generalize other.lookup name = second at hvalue ⊢
  cases hvalue with
  | some hsame => exact decode?_reordered hsame
  | none => rfl

theorem optional?_eq_of_sameRecord (h : Json.SameRecord record other) (name : String)
    (absent : α) : optional? record name absent = optional? other name absent := by
  have hvalue := h name
  rw [optional?, optional?]
  generalize record.lookup name = first at hvalue ⊢
  generalize other.lookup name = second at hvalue ⊢
  cases hvalue with
  | some hsame => exact decode?_reordered hsame
  | none => rfl

end Fields

/-! ## Words, numbers and lists -/

/-- What is read of values without fields does not depend on their order. -/
theorem Json.read_eq_of_leaf {read : Json → Option α}
    (harray : ∀ items, read (.array items) = none)
    (hobject : ∀ fields, read (.object fields) = none) {json other : Json}
    (h : Json.Reordered json other) : read json = read other := by
  cases h.alike with
  | same => rfl
  | array => rw [harray, harray]
  | object => rw [hobject, hobject]

instance : LawfulCodec String where
  decode?_reordered := Json.read_eq_of_leaf (fun _ => rfl) fun _ => rfl
  decode?_encode _ := rfl

instance : LawfulCodec Int64 where
  decode?_reordered := Json.read_eq_of_leaf (fun _ => rfl) fun _ => rfl
  decode?_encode := decode?_toInt

instance : UnorderedCodec Nat where
  decode?_reordered := Json.read_eq_of_leaf (fun _ => rfl) fun _ => rfl

/-- A count of 64 bits is read back. -/
theorem decode?_encode_count {count : Nat} (h : count < UInt64.size) :
    decode? (encode count) = some count := by
  have hbounds : (0 : Int) ≤ count ∧ (count : Int).toNat < UInt64.size :=
    ⟨Int.natCast_nonneg count, h⟩
  exact if_pos hbounds

/-- A count that is read has 64 bits. -/
theorem count_lt_of_decode? {json : Json} {count : Nat} (h : decode? json = some count) :
    count < UInt64.size := by
  simp only [decode?] at h
  split at h
  · split at h
    · next hbounds =>
      cases h
      exact hbounds.2
    · cases h
  · cases h

instance [JsonCodec α] [UnorderedCodec α] : UnorderedCodec (List α) where
  decode?_reordered h := by
    cases h.alike with
    | same => rfl
    | array hitems =>
      -- the items are read one by one, each the same as the one at its place
      clear h
      simp only [decode?]
      induction hitems with
      | nil => rfl
      | cons hitem _ ih => rw [List.mapM_cons, List.mapM_cons, decode?_reordered hitem, ih]
    | object => rfl

instance [JsonCodec α] [LawfulCodec α] : LawfulCodec (List α) where
  decode?_encode values := Json.items?_encode decode?_encode values

instance : LawfulCodec FlagState where
  decode?_reordered h := congrArg (Option.bind · FlagState.ofText?) (Json.choice?_reordered h)
  decode?_encode state := by cases state <;> rfl

instance : LawfulCodec ConstraintKind where
  decode?_reordered h := congrArg (Option.bind · ConstraintKind.ofText?) (Json.choice?_reordered h)
  decode?_encode kind := by cases kind <;> rfl

instance : LawfulCodec Constraint where
  decode?_reordered := by
    -- a constraint is one field, and so its target is all in which fields could be moved
    refine Json.read_eq_of_reordered (fun fields hlength => ?_) (fun name target target' h => ?_)
      fun _ => rfl
    · match fields with
      | [] => rfl
      | [_] => exact absurd rfl hlength
      | _ :: _ :: _ => rfl
    · have htarget : decode? target = (decode? target' : Option String) := decode?_reordered h
      simp only [decode?] at htarget ⊢
      rw [htarget]
  decode?_encode constraint := by cases constraint <;> rfl

/-! ## Records -/

instance : LawfulCodec FlagDefinition where
  decode?_reordered := Json.bind_record?_reordered fun _ _ h => by
    simp only [required?_eq_of_sameRecord h, optional?_eq_of_sameRecord h]
  decode?_encode _ := Json.bind_record?_object rfl (by decide) (by simp)

instance : LawfulCodec Assertion where
  decode?_reordered := Json.bind_record?_reordered fun _ _ h => by
    simp only [required?_eq_of_sameRecord h]
  decode?_encode _ := Json.bind_record?_object rfl (by decide) (by simp)

instance : LawfulCodec Setting where
  decode?_reordered := Json.bind_record?_reordered fun _ _ h => by
    simp only [required?_eq_of_sameRecord h]
  decode?_encode _ := Json.bind_record?_object rfl (by decide) (by simp)

instance : LawfulCodec Violation where
  decode?_reordered := Json.bind_record?_reordered fun _ _ h => by
    simp only [required?_eq_of_sameRecord h]
  decode?_encode _ := Json.bind_record?_object rfl (by decide) (by simp)

instance : LawfulCodec LayerEntry where
  decode?_reordered := Json.bind_record?_reordered fun _ _ h => by
    simp only [required?_eq_of_sameRecord h]
  decode?_encode _ := Json.bind_record?_object rfl (by decide) (by simp)

instance : LawfulCodec CatalogFlag where
  decode?_reordered := Json.bind_record?_reordered fun _ _ h => by
    simp only [required?_eq_of_sameRecord h, optional?_eq_of_sameRecord h]
  decode?_encode _ := Json.bind_record?_object rfl (by decide) (by simp)

instance : LawfulCodec Catalog where
  decode?_reordered := Json.bind_record?_reordered fun _ _ h => by
    simp only [optional?_eq_of_sameRecord h]
  decode?_encode _ := Json.bind_record?_object rfl (by decide) (by simp)

instance : LawfulCodec Manifest where
  decode?_reordered := Json.bind_record?_reordered fun _ _ h => by
    simp only [required?_eq_of_sameRecord h, optional?_eq_of_sameRecord h]
  decode?_encode _ := Json.bind_record?_object rfl (by decide) (by simp)

instance : UnorderedCodec LayerSource where
  decode?_reordered := Json.bind_record?_reordered fun _ _ h => by
    simp only [required?_eq_of_sameRecord h]

namespace LayerSource

/-- Both counts have 64 bits. -/
def Counted (source : LayerSource) : Prop :=
  source.assertions < UInt64.size ∧ source.settings < UInt64.size

theorem Counted.decode?_encode {source : LayerSource} (h : source.Counted) :
    decode? (encode source) = some source :=
  Json.bind_record?_object rfl (by decide)
    (by simp [decode?_encode_count h.1, decode?_encode_count h.2])

theorem counted_of_decode? {json : Json} {source : LayerSource} (h : decode? json = some source) :
    source.Counted := by
  -- the fields are read in order, and the counts are the last two
  obtain ⟨record, -, h⟩ := Option.bind_eq_some_iff.1 h
  obtain ⟨id, -, h⟩ := Option.bind_eq_some_iff.1 h
  obtain ⟨priority, -, h⟩ := Option.bind_eq_some_iff.1 h
  obtain ⟨path, -, h⟩ := Option.bind_eq_some_iff.1 h
  obtain ⟨digest, -, h⟩ := Option.bind_eq_some_iff.1 h
  obtain ⟨assertions, hassertions, h⟩ := Option.bind_eq_some_iff.1 h
  obtain ⟨settings, hsettings, h⟩ := Option.bind_eq_some_iff.1 h
  obtain ⟨_, -, hassertions⟩ := Option.bind_eq_some_iff.1 hassertions
  obtain ⟨_, -, hsettings⟩ := Option.bind_eq_some_iff.1 hsettings
  cases h
  exact ⟨count_lt_of_decode? hassertions, count_lt_of_decode? hsettings⟩

end LayerSource

/-! ## Texts -/

namespace JsonCodec

/-- The text of a value. -/
def write [JsonCodec α] (value : α) : String :=
  (encode value).compact

/-- The value that a text tells of. -/
def read? [JsonCodec α] (text : String) : Option α :=
  (Json.parse? text).bind decode?

/-- A text that is read and written again. -/
def recode? (α : Type) [JsonCodec α] (text : String) : Option String :=
  (read? text : Option α).map write

/-- The texts of the values of a type that fit preserve these values. -/
structure Lossless (α : Type) [JsonCodec α] (Fits : α → Prop) : Prop where
  /-- What is written of a value follows the grammar. -/
  isText_write : ∀ value : α, Json.Grammar.IsText (write value) (encode value)
  /-- A value that fits is read from every text of what it is encoded as, also with the fields of
  the objects in it, on every level, in another order. -/
  read?_eq_some : ∀ value : α, Fits value → ∀ json, Json.Reordered (encode value) json →
    ∀ text, Json.Grammar.IsText text json → read? text = some value
  /-- Nothing is read but values that fit. -/
  fits_of_read? : ∀ text (value : α), read? text = some value → Fits value
  /-- A text that has been read and written again stays as it is. -/
  recode?_recode? : ∀ text again, recode? α text = some again → recode? α again = some again

section Lossless

variable [JsonCodec α] {Fits : α → Prop}

theorem read?_of_isText {text : String} {json : Json} (h : Json.Grammar.IsText text json) :
    (read? text : Option α) = decode? json := by
  rw [read?, Json.parse?_of_isText h, Option.bind_some]

/-- Texts are lossless if values that fit are encoded so that they are decoded again, and nothing
else is decoded. -/
theorem Lossless.of_codec [UnorderedCodec α]
    (hencode : ∀ value, Fits value → decode? (encode value) = some value)
    (hfits : ∀ json value, decode? json = some value → Fits value) : Lossless α Fits := by
  have hwrite : ∀ value : α, Json.Grammar.IsText (write value) (encode value) := fun value =>
    Json.isText_compact (encode value)
  have hread : ∀ text (value : α), read? text = some value → Fits value := by
    intro text value h
    obtain ⟨json, -, hdecode⟩ := Option.bind_eq_some_iff.1 h
    exact hfits json value hdecode
  refine
    { isText_write := hwrite
      read?_eq_some := fun value hvalue json hreordered text htext => ?_
      fits_of_read? := hread
      recode?_recode? := fun text again h => ?_ }
  · rw [read?_of_isText htext, ← decode?_reordered hreordered, hencode value hvalue]
  · -- what is read fits, so that its own text is read as the same value
    obtain ⟨value, hvalue, rfl⟩ := Option.map_eq_some_iff.1 h
    rw [recode?, read?_of_isText (hwrite value), hencode value (hread text value hvalue),
      Option.map_some]

theorem Lossless.of_lawful [LawfulCodec α] : Lossless α fun _ => True :=
  .of_codec (fun value _ => decode?_encode value) fun _ _ _ => trivial

end Lossless

end JsonCodec

/-- Whatever text, priority or list is in them, the values of every type with a codec survive
their own texts. The counts of a source have 64 bits there. -/
theorem lossless_codecs :
    Lossless FlagState (fun _ => True) ∧ Lossless Constraint (fun _ => True) ∧
    Lossless FlagDefinition (fun _ => True) ∧ Lossless Assertion (fun _ => True) ∧
    Lossless Setting (fun _ => True) ∧ Lossless ConstraintKind (fun _ => True) ∧
    Lossless Violation (fun _ => True) ∧
    Lossless LayerSource (fun source =>
      source.assertions < UInt64.size ∧ source.settings < UInt64.size) ∧
    Lossless LayerEntry (fun _ => True) ∧ Lossless CatalogFlag (fun _ => True) ∧
    Lossless Catalog (fun _ => True) ∧ Lossless Manifest (fun _ => True) := by
  have hsource : Lossless LayerSource LayerSource.Counted :=
    .of_codec (fun _ h => h.decode?_encode) fun _ _ h => LayerSource.counted_of_decode? h
  exact ⟨.of_lawful, .of_lawful, .of_lawful, .of_lawful, .of_lawful, .of_lawful, .of_lawful,
    hsource, .of_lawful, .of_lawful, .of_lawful, .of_lawful⟩

end LayeredFlags
