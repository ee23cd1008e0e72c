import Mathlib.Data.List.Forall2
/-!
# Outcomes

A computation in `Except` that has several steps succeeds exactly when each of its steps does.
The lemmas take such a computation apart without opening it. `FailsOnly` says which errors a
computation can end with, and its lemmas put a computation together from such steps.
-/

namespace LayeredFlags

variable {ε δ α β : Type}

-- rules by which `simp` runs a computation whose first step is known

@[simp]
theorem ok_bind (a : α) (next : α → Except ε β) : (Except.ok a >>= next) = next a := rfl

@[simp]
theorem error_bind (error : ε) (next : α → Except ε β) :
    (Except.error error >>= next) = .error error := rfl

@[simp]
theorem pure_eq_ok (a : α) : (pure a : Except ε α) = .ok a := rfl

@[simp]
theorem throw_eq_error (error : ε) : (throw error : Except ε α) = .error error := rfl

@[simp]
theorem map_error (f : α → β) (error : ε) :
    f <$> (Except.error error : Except ε α) = .error error := rfl

@[simp]
theorem map_ok (f : α → β) (a : α) : f <$> (Except.ok a : Except ε α) = .ok (f a) := rfl

@[simp]
theorem mapError_error (f : ε → δ) (error : ε) :
    (Except.error error : Except ε α).mapError f = .error (f error) := rfl

@[simp]
theorem mapError_ok (f : ε → δ) (a : α) : (Except.ok a : Except ε α).mapError f = .ok a := rfl

/-- A computation of two steps succeeds exactly when both steps do. -/
theorem bind_eq_ok_iff {first : Except ε α} {next : α → Except ε β} {b : β} :
    first >>= next = .ok b ↔ ∃ a, first = .ok a ∧ next a = .ok b := by
  cases first with
  | error error => simp
  | ok a => simp

/-- A computation of two steps fails exactly when one of the steps does. -/
theorem bind_eq_error_iff {first : Except ε α} {next : α → Except ε β} {error : ε} :
    first >>= next = .error error ↔
      first = .error error ∨ ∃ a, first = .ok a ∧ next a = .error error := by
  cases first with
  | error error => simp
  | ok a => simp

/-- A mapped computation succeeds exactly when the computation does. -/
theorem map_eq_ok_iff {f : α → β} {computation : Except ε α} {b : β} :
    f <$> computation = .ok b ↔ ∃ a, computation = .ok a ∧ f a = b := by
  cases computation with
  | error error =>
    constructor
    · intro h
      cases h
    · rintro ⟨a, h, -⟩
      cases h
  | ok a => simp

/-- A mapped computation fails exactly when the computation does. -/
theorem map_eq_error_iff {f : α → β} {computation : Except ε α} {error : ε} :
    f <$> computation = .error error ↔ computation = .error error := by
  cases computation with
  | error error => simp
  | ok a => simp

/-- A failed computation whose error is mapped fails with the mapped error. -/
theorem mapError_eq_error_iff {f : ε → δ} {computation : Except ε α} {error : δ} :
    computation.mapError f = .error error ↔
      ∃ inner, computation = .error inner ∧ f inner = error := by
  cases computation with
  | error inner => simp
  | ok a => simp

/-- A mapping of the error leaves the results as they are. -/
theorem mapError_eq_ok_iff {f : ε → δ} {computation : Except ε α} {a : α} :
    computation.mapError f = .ok a ↔ computation = .ok a := by
  cases computation with
  | error inner => simp
  | ok b => simp

/-- A computation on every item succeeds exactly when each of them does. -/
theorem mapM_eq_ok_iff {f : α → Except ε β} {items : List α} {results : List β} :
    items.mapM f = .ok results ↔ List.Forall₂ (fun a b => f a = .ok b) items results := by
  induction items generalizing results with
  | nil => simp [eq_comm]
  | cons a rest ih =>
    simp only [List.mapM_cons, bind_eq_ok_iff, ih, pure_eq_ok, Except.ok.injEq,
      List.forall₂_cons_left_iff]
    constructor
    · rintro ⟨b, hb, others, hothers, rfl⟩
      exact ⟨b, others, hb, hothers, rfl⟩
    · rintro ⟨b, others, hb, hothers, rfl⟩
      exact ⟨b, hb, others, hothers, rfl⟩

/-- Every result of a computation on all items is that of one of them. -/
theorem exists_mem_of_forall₂ {related : α → β → Prop} {items : List α} {results : List β}
    (h : List.Forall₂ related items results) {b : β} (hb : b ∈ results) :
    ∃ a ∈ items, related a b := by
  induction h with
  | nil => cases hb
  | @cons a first rest others hfirst hrest ih =>
    rcases List.mem_cons.1 hb with rfl | hb
    · exact ⟨a, List.mem_cons_self, hfirst⟩
    · obtain ⟨a', ha', hab⟩ := ih hb
      exact ⟨a', List.mem_cons_of_mem a ha', hab⟩

/-- There are results for all items if there is one for each of them. -/
theorem exists_forall₂_iff {related : α → β → Prop} {items : List α} :
    (∃ results, List.Forall₂ related items results) ↔ ∀ a ∈ items, ∃ b, related a b := by
  induction items with
  | nil => simp
  | cons a rest ih =>
    rw [List.forall_mem_cons, ← ih]
    constructor
    · rintro ⟨_, _ | ⟨hfirst, hrest⟩⟩
      exact ⟨⟨_, hfirst⟩, _, hrest⟩
    · rintro ⟨⟨b, hb⟩, others, hothers⟩
      exact ⟨b :: others, .cons hb hothers⟩

/-- Relations that compose between items compose between lists of them. -/
theorem forall₂_comp {γ : Type} {related : α → β → Prop} {next : β → γ → Prop}
    {both : α → γ → Prop} (hboth : ∀ a b c, related a b → next b c → both a c)
    {first : List α} {second : List β} {third : List γ} (h : List.Forall₂ related first second)
    (h' : List.Forall₂ next second third) : List.Forall₂ both first third := by
  induction h generalizing third with
  | nil =>
    cases h'
    exact .nil
  | cons hhead _ ih =>
    cases h' with
    | cons hhead' hrest' => exact .cons (hboth _ _ _ hhead hhead') (ih hrest')

/-- What related items have in common is the same along two lists of them. -/
theorem map_eq_of_forall₂ {γ : Type} {related : α → β → Prop} {f : α → γ} {g : β → γ}
    (hfg : ∀ a b, related a b → f a = g b) {items : List α} {results : List β}
    (h : List.Forall₂ related items results) : items.map f = results.map g := by
  induction h with
  | nil => rfl
  | cons hhead _ ih => rw [List.map_cons, List.map_cons, hfg _ _ hhead, ih]

/-- Whether a computation succeeds can be computed. -/
theorem exists_eq_ok_iff_isOk {computation : Except ε α} :
    (∃ a, computation = .ok a) ↔ computation.isOk = true := by
  cases computation with
  | error error => simp [Except.isOk, Except.toBool]
  | ok a => simp [Except.isOk, Except.toBool]

/-- A computation on every item depends on what it is on each of them. -/
theorem mapM_congr {f g : α → Except ε β} {items : List α} (h : ∀ a ∈ items, f a = g a) :
    items.mapM f = items.mapM g := by
  induction items with
  | nil => rfl
  | cons a rest ih =>
    rw [List.forall_mem_cons] at h
    rw [List.mapM_cons, List.mapM_cons, h.1, ih h.2]

/-- The computation fails with errors of one kind only. -/
def FailsOnly (kind : ε → Prop) (computation : Except ε α) : Prop :=
  ∀ error, computation = .error error → kind error

section FailsOnly

variable {kind : ε → Prop}

theorem failsOnly_ok (a : α) : FailsOnly kind (.ok a : Except ε α) := by
  intro error h
  cases h

theorem failsOnly_error {error : ε} (h : kind error) :
    FailsOnly kind (.error error : Except ε α) := by
  intro error' h'
  cases h'
  exact h

/-- Two steps fail with errors of one kind if each of them does. -/
theorem FailsOnly.bind {first : Except ε α} {next : α → Except ε β} (hfirst : FailsOnly kind first)
    (hnext : ∀ a, FailsOnly kind (next a)) : FailsOnly kind (first >>= next) := by
  intro error h
  rcases bind_eq_error_iff.1 h with h | ⟨a, -, h⟩
  · exact hfirst error h
  · exact hnext a error h

/-- A mapping of the results leaves the errors as they are. -/
theorem FailsOnly.map {computation : Except ε α} (h : FailsOnly kind computation) (f : α → β) :
    FailsOnly kind (f <$> computation) :=
  fun error herror => h error (map_eq_error_iff.1 herror)

/-- A mapping of the errors maps their kind. -/
theorem FailsOnly.mapError {f : ε → δ} {kind : δ → Prop} {computation : Except ε α}
    (h : FailsOnly (fun error => kind (f error)) computation) :
    FailsOnly kind (computation.mapError f) := by
  intro error herror
  obtain ⟨inner, hinner, rfl⟩ := mapError_eq_error_iff.1 herror
  exact h inner hinner

/-- A computation on every item fails with errors of the kind of each of them. -/
theorem FailsOnly.mapM {f : α → Except ε β} {items : List α}
    (h : ∀ a ∈ items, FailsOnly kind (f a)) : FailsOnly kind (items.mapM f) := by
  induction items with
  | nil => exact failsOnly_ok []
  | cons a rest ih =>
    rw [List.forall_mem_cons] at h
    rw [List.mapM_cons]
    exact h.1.bind fun b => (ih h.2).bind fun others => failsOnly_ok (b :: others)

/-- A run of steps fails with errors of the kind of each of them. -/
theorem FailsOnly.foldlM {step : β → α → Except ε β} (h : ∀ b a, FailsOnly kind (step b a))
    (items : List α) (start : β) : FailsOnly kind (items.foldlM step start) := by
  induction items generalizing start with
  | nil => exact failsOnly_ok start
  | cons a rest ih =>
    rw [List.foldlM_cons]
    exact (h start a).bind ih

end FailsOnly

end LayeredFlags
