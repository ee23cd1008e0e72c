import LayeredFlags.Proofs.Text.Integer
import LayeredFlags.Stack.LayerEntry
/-!
# Texts of Layer Entries

The text of an entry is cut at its first two colons. What is cut off in front of them holds no
colon, while the path may hold any number of them. There is none in a number either, so that the
text of an entry is read as that entry if there is none in its identifier.

## Main definitions

* `LayerEntry.CutsInto`: the parts of a text before, between and behind its first two colons;
* `LayerEntry.ReadsExactly`: which texts are read, and as which entry.

## Main results

* `LayerEntry.exists_cutsInto_iff`: every text with two colons has such parts;
* `LayerEntry.ofSpec_eq_ok_iff`: a text is read as an entry exactly if the entry has its parts;
* `LayerEntry.ofSpec_toSpec`: the text of an entry is read as that entry;
* `LayerEntry.readsExactly`: all of this.
-/

namespace LayeredFlags.LayerEntry

/-! ## Specification -/

/-- The text is cut at its first two colons. -/
structure CutsInto (spec id priority path : String) : Prop where
  /-- The parts with colons between them are the text. -/
  eq_append : spec = id ++ ":" ++ priority ++ ":" ++ path
  /-- The first colon ends the first part. -/
  not_mem_id : ':' ∉ id.toList
  /-- The second colon ends the second part. -/
  not_mem_priority : ':' ∉ priority.toList

/-- Texts of entries are read exactly. -/
structure ReadsExactly : Prop where
  /-- A text has the three parts exactly if it has two colons. -/
  exists_cutsInto_iff : ∀ spec : String,
    (∃ id priority path, CutsInto spec id priority path) ↔ 2 ≤ spec.toList.count ':'
  /-- It is read exactly if it has, and the second part is a numeral of 64 bits. -/
  exists_iff : ∀ spec, (∃ entry, ofSpec spec = .ok entry) ↔
    ∃ id priority path value, CutsInto spec id priority path ∧
      Text.Numeral priority.toList value ∧
      Int64.minValue.toInt ≤ value ∧ value ≤ Int64.maxValue.toInt
  /-- The entry has the first part as its identifier, the value of the second one as its priority,
  and all of the third one as its path. -/
  eq_ok_iff : ∀ spec entry, ofSpec spec = .ok entry ↔
    ∃ priority, CutsInto spec entry.id priority entry.path ∧
      Text.Numeral priority.toList entry.priority.toInt
  /-- What is written of an entry is read as that entry, unless there is a colon in its
  identifier. -/
  written : ∀ entry : LayerEntry, ':' ∉ entry.id.toList → ofSpec entry.toSpec = .ok entry
  /-- Different entries of that kind have different texts. -/
  injective : ∀ entry other : LayerEntry, ':' ∉ entry.id.toList → ':' ∉ other.id.toList →
    entry.toSpec = other.toSpec → entry = other

variable {spec id priority path : String} {entry : LayerEntry}

/-! ## Cutting -/

/-- A text is cut at its first colon. -/
theorem cutColon_eq_some_iff {text before after : List Char} :
    cutColon text = some (before, after) ↔ text = before ++ ':' :: after ∧ ':' ∉ before := by
  -- induction on the text: either it starts with the colon, or the cut is further behind
  induction text generalizing before with
  | nil => simp [cutColon]
  | cons c rest ih =>
    rw [cutColon]
    split
    · next hcolon =>
      subst hcolon
      constructor
      · rintro ⟨⟩
        exact ⟨rfl, List.not_mem_nil⟩
      · rintro ⟨heq, hmem⟩
        cases before with
        | nil => rw [(List.cons.inj heq).2]
        | cons d before =>
          obtain ⟨rfl, -⟩ := List.cons.inj heq
          exact absurd List.mem_cons_self hmem
    · next hne =>
      simp only [Option.map_eq_some_iff, Prod.exists, Prod.mk.injEq]
      constructor
      · rintro ⟨first, after, hcut, rfl, rfl⟩
        obtain ⟨rfl, hmem⟩ := ih.1 hcut
        exact ⟨rfl, List.not_mem_cons_of_ne_of_not_mem (Ne.symm hne) hmem⟩
      · rintro ⟨heq, hmem⟩
        cases before with
        | nil => exact absurd (List.cons.inj heq).1 hne
        | cons d first =>
          obtain ⟨rfl, hrest⟩ := List.cons.inj heq
          exact ⟨first, after, ih.2 ⟨hrest, List.not_mem_of_not_mem_cons hmem⟩, rfl, rfl⟩

/-- A text is cut twice. -/
theorem cutsInto_iff :
    CutsInto spec id priority path ↔
      ∃ rest, cutColon spec.toList = some (id.toList, rest) ∧
        cutColon rest = some (priority.toList, path.toList) := by
  simp only [cutColon_eq_some_iff]
  constructor
  · rintro ⟨rfl, hid, hpriority⟩
    exact ⟨priority.toList ++ ':' :: path.toList, ⟨by simp, hid⟩, rfl, hpriority⟩
  · rintro ⟨rest, ⟨hspec, hid⟩, rfl, hpriority⟩
    refine ⟨String.toList_inj.1 ?_, hid, hpriority⟩
    rw [hspec]
    simp

/-- A text can be cut twice exactly if it has two colons. -/
theorem exists_cutsInto_iff :
    (∃ id priority path, CutsInto spec id priority path) ↔ 2 ≤ spec.toList.count ':' := by
  constructor
  · rintro ⟨id, priority, path, rfl, -, -⟩
    have hcolon : ":".toList.count ':' = 1 := rfl
    simp only [String.toList_append, List.count_append, hcolon]
    omega
  · intro hcount
    obtain ⟨id, rest, hspec, hid⟩ := List.eq_append_cons_of_mem
      (List.count_pos_iff.1 (show 0 < spec.toList.count ':' by omega))
    rw [hspec, List.count_append, List.count_cons_self, List.count_eq_zero_of_not_mem hid] at hcount
    obtain ⟨priority, path, hrest, hpriority⟩ := List.eq_append_cons_of_mem
      (List.count_pos_iff.1 (show 0 < rest.count ':' by omega))
    refine ⟨String.ofList id, String.ofList priority, String.ofList path, cutsInto_iff.2 ⟨rest, ?_⟩⟩
    simp only [String.toList_ofList, cutColon_eq_some_iff]
    exact ⟨⟨hspec, hid⟩, hrest, hpriority⟩

/-! ## Reading -/

/-- A text is read as an entry exactly if it is cut into the identifier, a numeral of the priority
and the path. -/
theorem ofSpec_eq_ok_iff :
    ofSpec spec = .ok entry ↔ ∃ priority, CutsInto spec entry.id priority entry.path ∧
      Text.Numeral priority.toList entry.priority.toInt := by
  simp only [cutsInto_iff, ← Text.readInt64_eq_ok_iff]
  constructor
  · intro h
    unfold ofSpec at h
    split at h
    · cases h
    · next id rest hid =>
      split at h
      · cases h
      · next priority path hpriority =>
        split at h
        · cases h
        · next number hnumber =>
          cases h
          simp only [String.toList_ofList]
          exact ⟨String.ofList priority, ⟨rest, hid, by rw [String.toList_ofList, hpriority]⟩,
            by rw [String.toList_ofList, hnumber]⟩
  · rintro ⟨priority, ⟨rest, hid, hpriority⟩, hnumber⟩
    simp [ofSpec, hid, hpriority, hnumber]

/-- A text is read exactly if it has the parts of an entry, and a numeral of 64 bits for the
priority. -/
theorem exists_ofSpec_iff :
    (∃ entry, ofSpec spec = .ok entry) ↔
      ∃ id priority path value, CutsInto spec id priority path ∧
        Text.Numeral priority.toList value ∧
        Int64.minValue.toInt ≤ value ∧ value ≤ Int64.maxValue.toInt := by
  simp only [ofSpec_eq_ok_iff]
  constructor
  · rintro ⟨entry, priority, hcuts, hnumeral⟩
    exact ⟨entry.id, priority, entry.path, entry.priority.toInt, hcuts, hnumeral,
      entry.priority.minValue_le_toInt, entry.priority.toInt_le⟩
  · rintro ⟨id, priority, path, value, hcuts, hnumeral, hlow, hhigh⟩
    refine ⟨⟨id, Int64.ofInt value, path⟩, priority, hcuts, ?_⟩
    have hvalue : (Int64.ofInt value).toInt = value :=
      Int64.toInt_ofInt_of_le hlow (Int.lt_of_le_sub_one hhigh)
    rwa [hvalue]

/-! ## Writing -/

/-- There is no colon in a numeral. -/
theorem not_mem_of_numeral {text : List Char} {value : Int} (h : Text.Numeral text value) :
    ':' ∉ text := by
  intro hmem
  rcases h.isDigit_or_of_mem hmem with hdigit | heq | heq
  · cases hdigit
  · cases heq
  · cases heq

/-- The text of an entry is read as that entry, if its identifier has no colon. -/
theorem ofSpec_toSpec (h : ':' ∉ entry.id.toList) : ofSpec entry.toSpec = .ok entry := by
  have hnumeral := Text.numeral_toString entry.priority.toInt
  refine ofSpec_eq_ok_iff.2 ⟨toString entry.priority.toInt, ⟨?_, h, ?_⟩, hnumeral⟩
  · rfl
  · exact not_mem_of_numeral hnumeral

/-- Texts of entries are read exactly. -/
theorem readsExactly : ReadsExactly where
  exists_cutsInto_iff spec := exists_cutsInto_iff
  exists_iff spec := exists_ofSpec_iff
  eq_ok_iff spec entry := ofSpec_eq_ok_iff
  written entry := ofSpec_toSpec
  injective entry other hentry hother heq := by
    have hread := ofSpec_toSpec hentry
    rw [heq, ofSpec_toSpec hother] at hread
    exact (Except.ok.inj hread).symm

/-- Colons behind the second one belong to the path, and zeros in front of the priority do not
count. -/
example : ofSpec "base:-01:C:/base.h" = .ok ⟨"base", -1, "C:/base.h"⟩ := by decide

end LayeredFlags.LayerEntry
