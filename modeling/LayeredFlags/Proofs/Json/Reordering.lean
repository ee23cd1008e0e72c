import LayeredFlags.Json.Codec
import LayeredFlags.Proofs.Outcome
import Mathlib.Data.List.Perm.Basic
/-!
# The Order of Fields

The fields of an object may be written in any order, and so may those of every object below it.
A record is read from its fields by name, so that the order makes no difference to what is read,
as long as no field stands twice.

## Main definitions

* `Reordered`: two values are the same but for the order of fields;
* `Alike`: what this says of the outermost level of a value;
* `SameRecord`: two lists of fields hold values under every name that are the same in this sense.

## Main results

* `Reordered.alike`: fields that are moved anywhere leave values that are alike;
* `choice?_reordered`, `bind_record?_reordered`: choices and records are read the same;
* `bind_record?_object`: an object with the fields of a record is read by reading these.
-/

namespace LayeredFlags.Json

/-- The values are the same but for the order of the fields of the objects in them. -/
inductive Reordered : Json → Json → Prop where
  /-- Nothing is moved. -/
  | refl (json : Json) : Reordered json json
  /-- The fields of an object are moved. -/
  | fields {fields others : List (String × Json)} (h : fields.Perm others) :
      Reordered (.object fields) (.object others)
  /-- Fields are moved inside an item of an array. -/
  | item {before after : List Json} {item other : Json} (h : Reordered item other) :
      Reordered (.array (before ++ item :: after)) (.array (before ++ other :: after))
  /-- Fields are moved inside the value of a field. -/
  | value {before after : List (String × Json)} {name : String} {value other : Json}
      (h : Reordered value other) :
      Reordered (.object (before ++ (name, value) :: after))
        (.object (before ++ (name, other) :: after))
  /-- Fields are moved in several places. -/
  | trans {first second third : Json} (h : Reordered first second) (h' : Reordered second third) :
      Reordered first third

example (a b c : Json) :
    Reordered (.object [("x", a), ("y", .array [.object [("p", b), ("q", c)]])])
      (.object [("y", .array [.object [("q", c), ("p", b)]]), ("x", a)]) :=
  .trans (.fields (.swap ..))
    (@Reordered.value [] _ _ _ _ (@Reordered.item [] _ _ _ (.fields (.swap ..))))

/-- Two fields have the same name, and values that are the same but for the order of fields. -/
def SameField (field other : String × Json) : Prop :=
  field.1 = other.1 ∧ Reordered field.2 other.2

/-- The values are the same on the outermost level, where fields may be moved, and the same but
for the order of fields below. -/
inductive Alike : Json → Json → Prop where
  /-- The values are the same on all levels. -/
  | same (json : Json) : Alike json json
  /-- The items of an array stand in their order. -/
  | array {items others : List Json} (h : List.Forall₂ Reordered items others) :
      Alike (.array items) (.array others)
  /-- The fields of an object stand in any order. -/
  | object {fields middle others : List (String × Json)} (hperm : fields.Perm middle)
      (h : List.Forall₂ SameField middle others) : Alike (.object fields) (.object others)

/-- Two records have values under the same names, and these are the same but for the order of
fields. -/
def SameRecord (record other : List (String × Json)) : Prop :=
  ∀ name, Option.Rel Reordered (record.lookup name) (other.lookup name)

/-! ## Levels of a value -/

theorem forall₂_reordered_refl (items : List Json) : List.Forall₂ Reordered items items :=
  List.forall₂_same.2 fun item _ => .refl item

theorem forall₂_sameField_refl (fields : List (String × Json)) :
    List.Forall₂ SameField fields fields :=
  List.forall₂_same.2 fun field _ => ⟨rfl, .refl field.2⟩

theorem SameField.trans {first second third : String × Json} (h : SameField first second)
    (h' : SameField second third) : SameField first third :=
  ⟨h.1.trans h'.1, h.2.trans h'.2⟩

theorem Alike.trans {first second third : Json} (h : Alike first second)
    (h' : Alike second third) : Alike first third := by
  cases h with
  | same => exact h'
  | array h =>
    cases h' with
    | same => exact .array h
    | array h' => exact .array (forall₂_comp (fun _ _ _ => .trans) h h')
  | object hperm h =>
    cases h' with
    | same => exact .object hperm h
    | object hperm' h' =>
      -- the two moves of fields on this level are made one after the other, before those below
      have hcomp : Relation.Comp (List.Forall₂ SameField) List.Perm _ _ := ⟨_, h, hperm'⟩
      rw [List.forall₂_comp_perm_eq_perm_comp_forall₂] at hcomp
      obtain ⟨middle, hmiddle, hsame⟩ := hcomp
      exact .object (hperm.trans hmiddle)
        (forall₂_comp (fun _ _ _ => .trans) hsame h')

/-- Fields that are moved anywhere in a value leave one that is alike. -/
theorem Reordered.alike {json other : Json} (h : Reordered json other) : Alike json other := by
  induction h with
  | refl json => exact .same json
  | fields h => exact .object h (forall₂_sameField_refl _)
  | item h =>
    exact .array (List.rel_append (forall₂_reordered_refl _) (.cons h (forall₂_reordered_refl _)))
  | value h =>
    exact .object (.refl _)
      (List.rel_append (forall₂_sameField_refl _) (.cons ⟨rfl, h⟩ (forall₂_sameField_refl _)))
  | trans _ _ ih ih' => exact ih.trans ih'

/-! ## Choices -/

/-- A single field stays a single field. -/
theorem exists_singleton_of_reordered {name : String} {value other : Json}
    (h : Reordered (.object [(name, value)]) other) :
    ∃ value', Reordered value value' ∧ other = .object [(name, value')] := by
  cases h.alike with
  | same => exact ⟨value, .refl value, rfl⟩
  | object hperm hfields =>
    obtain rfl := hperm.symm.eq_singleton
    obtain ⟨⟨name', value'⟩, _, hfield, hrest, rfl⟩ := List.forall₂_cons_left_iff.1 hfields
    obtain rfl := List.forall₂_nil_left_iff.1 hrest
    obtain ⟨rfl, hvalue⟩ := hfield
    exact ⟨value', hvalue, rfl⟩

/-- What is read of single fields only does not depend on the order of fields, if it does not
depend on that inside the value. -/
theorem read_eq_of_reordered {α : Type} {read : Json → Option α}
    (hother : ∀ fields, fields.length ≠ 1 → read (.object fields) = none)
    (hsingle : ∀ name value value', Reordered value value' →
      read (.object [(name, value)]) = read (.object [(name, value')]))
    (harray : ∀ items, read (.array items) = none) {json other : Json}
    (h : Reordered json other) : read json = read other := by
  cases h.alike with
  | same => rfl
  | array => rw [harray, harray]
  | @object fields middle others hperm hfields =>
    have hlength : fields.length = others.length := hperm.length_eq.trans hfields.length_eq
    by_cases hone : fields.length = 1
    · obtain ⟨⟨name, value⟩, rfl⟩ := List.length_eq_one_iff.1 hone
      obtain ⟨value', hvalue, heq⟩ := exists_singleton_of_reordered h
      rw [heq]
      exact hsingle name value value' hvalue
    · rw [hother fields hone, hother others (hlength ▸ hone)]

theorem choice?_reordered {json other : Json} (h : Reordered json other) :
    json.choice? = other.choice? := by
  refine read_eq_of_reordered ?_ ?_ (fun _ => rfl) h
  · intro fields hlength
    match fields with
    | [] => rfl
    | [_] => exact absurd rfl hlength
    | (_, value) :: _ :: _ => cases value <;> rfl
  · intro name value value' hvalue
    cases hvalue.alike <;> rfl

/-! ## Records -/

section Records

variable {fields others : List (String × Json)} {name : String}

theorem lookup_eq_some_iff_mem (h : (fields.map (·.1)).Nodup) {value : Json} :
    fields.lookup name = some value ↔ (name, value) ∈ fields := by
  induction fields with
  | nil => simp
  | cons field rest ih =>
    obtain ⟨first, json⟩ := field
    obtain ⟨hnew, hrest⟩ := List.nodup_cons.1 h
    rw [List.lookup_cons, List.mem_cons, Prod.mk.injEq]
    by_cases hname : name = first
    · subst hname
      have hnone : (name, value) ∉ rest := fun hmem => hnew (List.mem_map.2 ⟨_, hmem, rfl⟩)
      simp [hnone, eq_comm]
    · rw [beq_eq_false_iff_ne.2 hname]
      simp [hname, ih hrest]

/-- Fields with different names are looked up the same in any order. -/
theorem lookup_eq_of_perm (h : fields.Perm others) (hnodup : (fields.map (·.1)).Nodup) :
    fields.lookup name = others.lookup name := by
  ext value
  rw [lookup_eq_some_iff_mem hnodup, lookup_eq_some_iff_mem ((h.map _).nodup_iff.1 hnodup)]
  exact h.mem_iff

theorem sameRecord_of_forall₂ (h : List.Forall₂ SameField fields others) :
    SameRecord fields others := by
  intro name
  induction h with
  | nil => exact .none
  | @cons field other rest others hfield _ ih =>
    obtain ⟨first, value⟩ := field
    obtain ⟨first', value'⟩ := other
    obtain ⟨rfl, hvalue⟩ := hfield
    rw [List.lookup_cons, List.lookup_cons]
    cases name == first with
    | true => exact .some hvalue
    | false => exact ih

theorem forall₂_sameField_zip {items items' : List Json} (names : List String)
    (h : List.Forall₂ Reordered items items') :
    List.Forall₂ SameField (names.zip items) (names.zip items') := by
  induction h generalizing names with
  | nil => simp
  | cons hitem _ ih =>
    cases names with
    | nil => exact .nil
    | cons name names => exact .cons ⟨rfl, hitem⟩ (ih names)

theorem SameField.map_fst_eq (h : List.Forall₂ SameField fields others) :
    fields.map (·.1) = others.map (·.1) :=
  map_eq_of_forall₂ (fun _ _ hfield => hfield.1) h

/-- A record has the same fields if fields are moved. -/
theorem record?_reordered (closed : Bool) (names : List String) {json other : Json}
    (h : Reordered json other) :
    Option.Rel SameRecord (json.record? closed names) (other.record? closed names) := by
  cases h.alike with
  | same =>
    cases json.record? closed names with
    | none => exact .none
    | some record => exact .some (sameRecord_of_forall₂ (forall₂_sameField_refl record))
  | @array items items' hitems =>
    rw [record?, record?, hitems.length_eq]
    split
    · exact .some (sameRecord_of_forall₂ (forall₂_sameField_zip names hitems))
    · exact .none
  | @object fields middle others hperm hfields =>
    -- whether a field counts depends on its name only
    have hknown := hperm.filter fun field => names.contains field.1
    have hsame : List.Forall₂ SameField (middle.filter fun field => names.contains field.1)
        (others.filter fun field => names.contains field.1) :=
      List.rel_filter (fun _ _ hfield => by simp only [hfield.1]) hfields
    have hnodup := (hknown.map (·.1)).nodup_iff
    rw [SameField.map_fst_eq hsame] at hnodup
    simp only [record?, hknown.length_eq, hsame.length_eq, hperm.length_eq, hfields.length_eq,
      hnodup]
    split
    · exact .none
    · split
      · next hdistinct =>
        refine .some fun name => ?_
        rw [lookup_eq_of_perm hknown (hnodup.2 hdistinct)]
        exact sameRecord_of_forall₂ hsame name
      · exact .none

/-- What is read of a record does not depend on the order of fields, if the values under the
names do not. -/
theorem bind_record?_reordered {α : Type} {closed : Bool} {names : List String}
    {read : List (String × Json) → Option α}
    (hread : ∀ record other, SameRecord record other → read record = read other)
    {json other : Json} (h : Reordered json other) :
    (json.record? closed names).bind read = (other.record? closed names).bind read := by
  have hrecords := record?_reordered closed names h
  generalize json.record? closed names = first at hrecords ⊢
  generalize other.record? closed names = second at hrecords ⊢
  cases hrecords with
  | some hsame => exact hread _ _ hsame
  | none => rfl

/-- An object with exactly the fields of a record is read by reading these. -/
theorem bind_record?_object {α : Type} {closed : Bool} {names : List String} {value : α}
    {read : List (String × Json) → Option α} (hnames : fields.map (·.1) = names)
    (hnodup : names.Nodup) (hread : read fields = some value) :
    ((object fields).record? closed names).bind read = some value := by
  subst hnames
  have hall : (fields.filter fun field => (fields.map (·.1)).contains field.1) = fields :=
    List.filter_eq_self.2 fun field hmem => by simpa using ⟨field.2, hmem⟩
  simp only [record?, hall]
  simp [hnodup, hread]

end Records

end LayeredFlags.Json
