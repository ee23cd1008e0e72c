import LayeredFlags.Proofs.LayerText.Reading
/-!
# What Lines Say

Lines that are read from code to code say some directives, on whichever line they start. What
joined lines say is joined too, and what the lines of a text say is what the text is read as.

## Main definitions

* `Says`: some lines are read, and their directives are the given ones;
* `EndsInCode`: some lines close the comments that open on them.

## Main results

* `says_of_readLines`: one line number is enough;
* `Says.append`, `says_flatMap`: joined lines;
* `says_flatMap_append_iff`: what items say one by one, seen from what they say together;
* `exists_parse_iff`: a text is read exactly when its lines say something.
-/

namespace LayeredFlags.LayerText

open Text

/-- Wherever the lines start, they are read, and they say the directives. -/
def Says (raws : List (List Char)) (directives : List Directive) : Prop :=
  ∀ number, ∃ here, readLines number .code raws = .ok here ∧
    here.map (·.directive) = directives

variable {raws first second : List (List Char)} {directives : List Directive}

/-- Lines that are read from one line on are read from any other line on. -/
theorem says_of_readLines {number : Nat} {here : List Line}
    (h : readLines number .code raws = .ok here) : Says raws (here.map (·.directive)) := by
  -- both readings are compared with the one from line zero on
  have hfrom : ∀ k, readLines k .code raws = outcomeLater k (readLines 0 .code raws) := by
    intro k
    have hlater := readLines_later k 0 .code raws
    rwa [Nat.zero_add, Region.later_code] at hlater
  rw [hfrom number, outcomeLater_eq_ok_iff] at h
  obtain ⟨start, hstart, rfl⟩ := h
  intro other
  refine ⟨start.map (Line.later other), ?_, by simp only [map_directive_later]⟩
  rw [hfrom other, outcomeLater_eq_ok_iff]
  exact ⟨start, hstart, rfl⟩

/-- Lines say one thing only. -/
theorem Says.unique {directives' : List Directive} (h : Says raws directives)
    (h' : Says raws directives') : directives = directives' := by
  obtain ⟨here, hread, rfl⟩ := h 0
  obtain ⟨here', hread', rfl⟩ := h' 0
  rw [hread] at hread'
  rw [Except.ok.inj hread']

theorem says_nil : Says [] [] := fun _ => ⟨[], rfl, rfl⟩

/-- A line that is read as one directive and ends in code. -/
theorem says_singleton {raw : List Char} {directive : Directive}
    (h : ∀ number, readLine number .code raw = .ok ([⟨number, directive⟩], .code)) :
    Says [raw] [directive] := by
  intro number
  exact ⟨[⟨number, directive⟩], by simp [readLines, h], rfl⟩

/-- A run that starts in code and is read as a whole ends in code. -/
theorem runLines_of_readLines {number : Nat} {here : List Line}
    (h : readLines number .code raws = .ok here) :
    runLines number .code raws = .ok (here, .code) := by
  obtain ⟨after, hrun, hblock⟩ := readLines_eq_ok_iff.1 h
  cases after with
  | code => exact hrun
  | block openedOn => exact absurd rfl (hblock openedOn)
  | literal mark =>
    exact absurd rfl (ne_literal_of_runLines Region.code_ne_literal hrun mark)

/-- Joined lines say what both say. -/
theorem Says.append {others : List Directive} (h : Says first directives)
    (h' : Says second others) : Says (first ++ second) (directives ++ others) := by
  intro number
  obtain ⟨here, hread, rfl⟩ := h number
  obtain ⟨there, hread', rfl⟩ := h' (number + first.length)
  refine ⟨here ++ there, ?_, List.map_append⟩
  rw [readLines_append, runLines_of_readLines hread]
  simp [hread']

/-- Items whose lines say one directive each. -/
theorem says_flatMap {α : Type} {items : List α} {raws : α → List (List Char)}
    {directive : α → Directive} (h : ∀ item ∈ items, Says (raws item) [directive item]) :
    Says (items.flatMap raws) (items.map directive) := by
  -- every item starts in code, because the items before it end there
  induction items with
  | nil => exact says_nil
  | cons item rest ih =>
    rw [List.flatMap_cons]
    exact (h item List.mem_cons_self).append
      (ih fun other hmem => h other (List.mem_cons_of_mem item hmem))

/-! ## Lines that close their comments -/

/-- However the lines are read from code on, the region after them is code again. -/
def EndsInCode (raws : List (List Char)) : Prop :=
  ∀ number here after, runLines number .code raws = .ok (here, after) → after = .code

/-- Lines of which the last ends with a closing mark end in code. -/
theorem endsInCode_close (others : List (List Char)) (last : List Char) :
    EndsInCode (others ++ [last ++ [' ', '*', '/']]) := by
  have hrun : ∀ number region here after,
      runLines number region (others ++ [last ++ [' ', '*', '/']]) = .ok (here, after) →
        after = .code := by
    -- only the last line decides, from whatever region it starts in
    induction others with
    | nil =>
      intro number region here after h
      obtain ⟨⟨first, next⟩, hline, hrest⟩ := bind_eq_ok_iff.1 h
      cases hrest
      cases after with
      | code => rfl
      | literal mark => exact absurd rfl (ne_literal_of_readLine hline mark)
      | block openedOn =>
        -- a line that is a comment as a whole would end in code
        have hhash : region = .code →
            isHashComment (trim (last ++ [' ', '*', '/'])) = false := by
          rintro rfl
          refine Bool.eq_false_iff.2 fun hcomment => ?_
          rw [readLine_of_isHashComment number hcomment] at hline
          cases hline
        have hstrip := ((readLine_eq_ok_iff hhash).1 hline).1
        exact absurd hstrip (stripComments_append_close number region last openedOn)
    | cons raw others ih =>
      intro number region here after h
      obtain ⟨first, next, there, -, hrun, rfl⟩ := runLines_cons_eq_ok_iff.1 h
      exact ih _ _ _ _ hrun
  exact fun number here after => hrun number .code here after

/-- What joined lines say is what both say, if the first ones end in code. -/
theorem Says.of_append (hends : EndsInCode first) (h : Says (first ++ second) directives) :
    ∃ here there, Says first here ∧ Says second there ∧ directives = here ++ there := by
  obtain ⟨all, hread, rfl⟩ := h 0
  rw [readLines_append] at hread
  obtain ⟨⟨here, after⟩, hrun, hrest⟩ := bind_eq_ok_iff.1 hread
  obtain ⟨there, hthere, heq⟩ := bind_eq_ok_iff.1 hrest
  -- the second lines start where the first ones end, which is in code
  obtain rfl := hends 0 here after hrun
  obtain rfl := Except.ok.inj heq
  have hhere : readLines 0 .code first = .ok here :=
    readLines_eq_ok_iff.2 ⟨.code, hrun, Region.code_ne_block⟩
  exact ⟨_, _, says_of_readLines hhere, says_of_readLines hthere, List.map_append⟩

/-- Lines that say something end in code. -/
theorem Says.endsInCode (h : Says raws directives) : EndsInCode raws := by
  intro number here after hrun
  obtain ⟨all, hread, -⟩ := h number
  rw [runLines_of_readLines hread] at hrun
  exact (Prod.mk.inj (Except.ok.inj hrun)).2.symm

/-- Lines that say nothing may stand in front. -/
theorem Says.append_iff (h : Says first []) :
    Says (first ++ second) directives ↔ Says second directives := by
  constructor
  · intro hboth
    obtain ⟨here, there, hhere, hthere, rfl⟩ := hboth.of_append h.endsInCode
    obtain rfl := hhere.unique h
    exact hthere
  · exact h.append

section Items

variable {α : Type} {items : List α} {raws : α → List (List Char)} {tail : List (List Char)}
  {last : List Directive}

/-- Items that say something each say at least as many directives as there are items. -/
theorem length_le_of_says_flatMap (hends : ∀ item ∈ items, EndsInCode (raws item))
    (hne : ∀ item ∈ items, ¬ Says (raws item) []) (htail : Says tail last)
    (h : Says (items.flatMap raws ++ tail) directives) :
    items.length + last.length ≤ directives.length := by
  -- induction on the items: each takes at least one directive off the front
  induction items generalizing directives with
  | nil =>
    obtain rfl := h.unique htail
    simp
  | cons item others ih =>
    rw [List.flatMap_cons, List.append_assoc] at h
    obtain ⟨here, there, hhere, hthere, rfl⟩ := h.of_append (hends item List.mem_cons_self)
    have hpos : 0 < here.length := by
      refine List.length_pos_iff.2 ?_
      rintro rfl
      exact hne item List.mem_cons_self hhere
    have hothers := ih (fun other hmem => hends other (List.mem_cons_of_mem item hmem))
      (fun other hmem => hne other (List.mem_cons_of_mem item hmem)) hthere
    rw [List.length_cons, List.length_append]
    omega

/-- Items that say something each say one directive each in all, exactly when each of them says
its own one. -/
theorem says_flatMap_append_iff {directive : α → Directive}
    (hends : ∀ item ∈ items, EndsInCode (raws item))
    (hne : ∀ item ∈ items, ¬ Says (raws item) []) (htail : Says tail last) :
    Says (items.flatMap raws ++ tail) (items.map directive ++ last) ↔
      ∀ item ∈ items, Says (raws item) [directive item] := by
  constructor
  · intro h
    induction items with
    | nil => exact List.forall_mem_nil _
    | cons item others ih =>
      have hends' := fun other hmem => hends other (List.mem_cons_of_mem item hmem)
      have hne' := fun other hmem => hne other (List.mem_cons_of_mem item hmem)
      rw [List.flatMap_cons, List.append_assoc] at h
      obtain ⟨here, there, hhere, hthere, heq⟩ := h.of_append (hends item List.mem_cons_self)
      -- the others say too much for this one to say more than its own directive
      have hcount := length_le_of_says_flatMap hends' hne' htail hthere
      have htotal := congrArg List.length heq
      simp only [List.length_append, List.length_map, List.length_cons] at htotal
      cases here with
      | nil => exact absurd hhere (hne item List.mem_cons_self)
      | cons first more =>
        have hmore : more = [] := by
          refine List.eq_nil_of_length_eq_zero ?_
          simp only [List.length_cons] at htotal
          omega
        subst hmore
        obtain ⟨rfl, rfl⟩ := List.cons.inj heq
        exact List.forall_mem_cons.2 ⟨hhere, ih hends' hne' hthere⟩
  · intro h
    exact (says_flatMap h).append htail

end Items

/-! ## Texts -/

/-- A text is read exactly when its lines say what its document does. -/
theorem exists_parse_iff {text : String} :
    (∃ document, parse text = .ok document ∧
      document.lines.map (·.directive) = directives) ↔
      Says (lines text.toList) directives := by
  constructor
  · rintro ⟨document, hparse, rfl⟩
    -- a text is read from its first line, and that line will do for all
    obtain ⟨here, hread, rfl⟩ := map_eq_ok_iff.1 hparse
    exact says_of_readLines hread
  · intro h
    obtain ⟨here, hread, hdirectives⟩ := h 1
    exact ⟨⟨here⟩, by rw [parse, hread]; rfl, hdirectives⟩

end LayeredFlags.LayerText
