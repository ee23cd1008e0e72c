/-!
# Flag Names

A name that a catalog or a layer text may use is an identifier: a letter or an underscore,
then letters, digits and underscores, all of them ASCII. `Matches` says the same as an expression
over the characters, and `isValid_iff_matches` that the two agree.
-/

namespace LayeredFlags.FlagName

/-- An ASCII letter or an underscore. -/
def isStart (c : Char) : Bool :=
  c.isAlpha || c == '_'

/-- An ASCII letter, an ASCII digit or an underscore. -/
def isRest (c : Char) : Bool :=
  c.isAlphanum || c == '_'

/-- The characters spell an identifier. -/
def isIdentifier : List Char → Bool
  | [] => false
  | c :: rest => isStart c && rest.all isRest

/-- The text is an identifier. -/
def isValid (name : String) : Bool :=
  isIdentifier name.toList

/-- Every character of an identifier may follow another one in it. -/
theorem isRest_of_mem {text : List Char} (h : isIdentifier text = true) {c : Char}
    (hc : c ∈ text) : isRest c = true := by
  cases text with
  | nil => simp at hc
  | cons a rest =>
    simp only [isIdentifier, Bool.and_eq_true, List.all_eq_true] at h
    rcases List.mem_cons.1 hc with rfl | hmem
    · have := h.1
      simp only [isStart, Bool.or_eq_true] at this
      simp only [isRest, Char.isAlphanum, Bool.or_eq_true]
      exact this.imp Or.inl id
    · exact h.2 c hmem

/-- An identifier is not empty. -/
theorem ne_nil_of_isIdentifier {text : List Char} (h : isIdentifier text = true) :
    text ≠ [] := by
  rintro rfl
  cases h

/-- The code points of the characters of identifiers. -/
theorem toNat_of_isRest {c : Char} (h : isRest c = true) :
    (48 ≤ c.toNat ∧ c.toNat ≤ 57) ∨ (65 ≤ c.toNat ∧ c.toNat ≤ 90) ∨ c.toNat = 95 ∨
      (97 ≤ c.toNat ∧ c.toNat ≤ 122) := by
  change (((decide (65 ≤ c.val ∧ c.val ≤ 90) || (decide (97 ≤ c.val) && decide (c.val ≤ 122))) ||
    (decide (48 ≤ c.val) && decide (c.val ≤ 57))) || c == '_') = true at h
  simp only [Bool.or_eq_true, Bool.and_eq_true, decide_eq_true_eq, beq_iff_eq,
    UInt32.le_iff_toNat_le] at h
  change (((65 ≤ c.toNat ∧ c.toNat ≤ 90) ∨ (97 ≤ c.toNat ∧ c.toNat ≤ 122)) ∨
    (48 ≤ c.toNat ∧ c.toNat ≤ 57)) ∨ c = '_' at h
  rcases h with ((h | h) | h) | rfl
  · exact .inr (.inl h)
  · exact .inr (.inr (.inr h))
  · exact .inl h
  · exact .inr (.inr (.inl rfl))

/-- What `[A-Za-z_]` matches. -/
def Starts (c : Char) : Prop :=
  ('A' ≤ c ∧ c ≤ 'Z') ∨ ('a' ≤ c ∧ c ≤ 'z') ∨ c = '_'

/-- What `[A-Za-z0-9_]` matches. -/
def Continues (c : Char) : Prop :=
  Starts c ∨ ('0' ≤ c ∧ c ≤ '9')

/-- What `[A-Za-z_][A-Za-z0-9_]*` matches. -/
def Matches (name : String) : Prop :=
  ∃ first rest, name.toList = first :: rest ∧ Starts first ∧ ∀ c ∈ rest, Continues c

theorem isStart_iff {c : Char} : isStart c = true ↔ Starts c := by
  change ((decide ('A' ≤ c ∧ c ≤ 'Z') || (decide ('a' ≤ c) && decide (c ≤ 'z'))) ||
    c == '_') = true ↔ _
  simp only [Starts, Bool.or_eq_true, Bool.and_eq_true, decide_eq_true_eq, beq_iff_eq, or_assoc]

theorem isRest_iff {c : Char} : isRest c = true ↔ Continues c := by
  change ((c.isAlpha || (decide ('0' ≤ c) && decide (c ≤ '9'))) || c == '_') = true ↔ _
  rw [Continues, ← isStart_iff]
  simp only [isStart, Bool.or_eq_true, Bool.and_eq_true, decide_eq_true_eq, or_right_comm]

/-- The valid names are those that the expression matches. -/
theorem isValid_iff_matches {name : String} : isValid name = true ↔ Matches name := by
  rw [isValid, Matches]
  cases name.toList with
  | nil => simp [isIdentifier]
  | cons first rest =>
    simp only [isIdentifier, Bool.and_eq_true, List.all_eq_true, isStart_iff, isRest_iff]
    constructor
    · exact fun h => ⟨first, rest, rfl, h⟩
    · rintro ⟨_, _, heq, h⟩
      cases heq
      exact h

end LayeredFlags.FlagName
