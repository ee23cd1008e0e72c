import LayeredFlags.Proofs.LayerText.Reading
/-!
# Settings that a Line Can Hold

A value that a layer text gives to a constant has gone through comment stripping and trimming.
This file says what that leaves: a value that can be written on a line of its own and is read
back from there as it is.

## Main definitions

* `Setting.Writable`: the name and the value of a setting can be written and read back.

## Main results

* `writable_of_parse`: every setting of a layer text that is read is writable.
-/

namespace LayeredFlags

open Text LayerText

/-- The setting can be written on a line and is read back from there. -/
structure Setting.Writable (setting : Setting) : Prop where
  /-- The name is an identifier. -/
  name_valid : FlagName.isValid setting.name = true
  /-- The value is not empty. -/
  value_ne_nil : setting.value.toList ≠ []
  /-- The value neither starts nor ends with a blank. -/
  value_trimmed : Trimmed setting.value.toList
  /-- The value does not end its line. -/
  value_oneLine : '\n' ∉ setting.value.toList
  /-- No comment opens in the value, and it leaves no literal open. -/
  value_kept : ∀ line,
    stripComments line .code setting.value.toList = (setting.value.toList, .code)

namespace LayerText

/-- The text gives the setting: nothing opens in its front, and the value is what follows. -/
structure GivesSetting (text : List Char) (setting : Setting) : Prop where
  /-- The text has a front in which nothing opens, and the value follows it. -/
  exists_split : ∃ front rest, text = front ++ rest ∧ (∀ c ∈ front, isInert c = true) ∧
    setting.value.toList = trim rest
  /-- The name is an identifier. -/
  name_valid : FlagName.isValid setting.name = true
  /-- The value is not empty. -/
  value_ne_nil : setting.value.toList ≠ []

/-- Characters that open nothing may stand in front. -/
theorem GivesSetting.append {text front : List Char} {setting : Setting}
    (h : GivesSetting text setting) (hfront : ∀ c ∈ front, isInert c = true) :
    GivesSetting (front ++ text) setting := by
  obtain ⟨before, rest, rfl, hbefore, hvalue⟩ := h.exists_split
  refine ⟨⟨front ++ before, rest, (List.append_assoc ..).symm, ?_, hvalue⟩, h.name_valid,
    h.value_ne_nil⟩
  intro c hc
  rcases List.mem_append.1 hc with hmem | hmem
  · exact hfront c hmem
  · exact hbefore c hmem

/-- A word in which nothing opens may stand in front. -/
theorem GivesSetting.of_nextWord {text : List Char} {setting : Setting}
    (h : GivesSetting (nextWord text).2 setting)
    (hword : ∀ c ∈ (nextWord text).1, isInert c = true) : GivesSetting text setting := by
  obtain ⟨before, htext, hbefore⟩ := exists_nextWord text
  rw [htext, List.append_assoc]
  exact (h.append hword).append fun c hc => isInert_of_isBlank (hbefore c hc)

/-- A definition with a value gives the setting that is read. -/
theorem givesSetting_of_readDefine {text : List Char} {setting : Setting}
    (h : readDefine text = .ok (.set setting)) : GivesSetting text setting := by
  unfold readDefine at h
  dsimp only at h
  -- the name, and then the value, must be there for a setting to be read
  by_cases hempty : (nextWord text).1 = []
  · simp [hempty] at h
  · by_cases hname : FlagName.isIdentifier (nextWord text).1 = true
    · by_cases hvalue : trim (nextWord text).2 = []
      · simp [hempty, readName, hname, hvalue] at h
      · simp only [hempty, readName, hname, hvalue, ↓reduceIte, ok_bind, pure_eq_ok,
          Except.ok.injEq, Directive.set.injEq] at h
        subst h
        have hrest : GivesSetting (nextWord text).2
            ⟨String.ofList (nextWord text).1, String.ofList (trim (nextWord text).2)⟩ :=
          { exists_split := ⟨[], _, rfl, List.forall_mem_nil _, String.toList_ofList⟩
            name_valid := by rwa [FlagName.isValid, String.toList_ofList]
            value_ne_nil := by rwa [String.toList_ofList] }
        exact hrest.of_nextWord fun c hc =>
          isInert_of_isRest (FlagName.isRest_of_mem hname hc)
    · simp [hempty, readName, hname] at h

/-- A preprocessor line without a value gives no setting. -/
theorem readUndef_ne_set (text : List Char) (setting : Setting) :
    readUndef text ≠ .ok (.set setting) := by
  unfold readUndef
  dsimp only
  by_cases hempty : (nextWord text).1 = []
  · simp [hempty]
  · by_cases hvalue : trim (nextWord text).2 = []
    · cases readName (nextWord text).1 <;> simp [hempty, hvalue]
    · simp [hempty, hvalue]

/-- A line of words gives no setting. -/
theorem readWords_ne_set (text : List Char) (setting : Setting) :
    readWords text ≠ .ok (.set setting) := by
  have hflag : ∀ keyword state rest, readFlag keyword state rest ≠ .ok (.set setting) := by
    intro keyword state rest
    unfold readFlag
    dsimp only
    split
    · simp
    · split
      · simp
      · cases readName (nextWord rest).1 <;> simp
  unfold readWords
  dsimp only
  split
  · exact hflag _ _ _
  · split
    · exact hflag _ _ _
    · simp

/-- A preprocessor line with a value gives the setting that is read. -/
theorem givesSetting_of_readPreprocessor {text : List Char} {setting : Setting}
    (h : readPreprocessor text = .ok (.set setting)) : GivesSetting text setting := by
  unfold readPreprocessor at h
  dsimp only at h
  by_cases hdefine : (nextWord text).1 = "define".toList
  · rw [if_pos hdefine] at h
    refine (givesSetting_of_readDefine h).of_nextWord ?_
    rw [hdefine]
    exact List.all_eq_true.1 rfl
  · rw [if_neg hdefine] at h
    split at h
    · exact absurd h (readUndef_ne_set _ _)
    · cases h

/-- A line that is read as a setting gives that setting. -/
theorem givesSetting_of_readDirective {code : List Char} {setting : Setting}
    (h : readDirective code = .ok (some (.set setting))) : GivesSetting code setting := by
  unfold readDirective at h
  split at h
  · cases h
  · split at h
    · obtain ⟨_, hread, heq⟩ := map_eq_ok_iff.1 h
      obtain rfl := Option.some.inj heq
      have hmark : ∀ c ∈ ['#'], isInert c = true := List.all_eq_true.1 rfl
      exact (givesSetting_of_readPreprocessor hread).append hmark
    · obtain ⟨_, hread, heq⟩ := map_eq_ok_iff.1 h
      obtain rfl := Option.some.inj heq
      exact absurd hread (readWords_ne_set _ _)

/-- The code of a line says what its directive says. -/
theorem readDirective_of_mem_readCode {number : Nat} {kept : List Char} {here : List Line}
    {line : Line} (h : readCode number kept = .ok here) (hline : line ∈ here) :
    readDirective (trim kept) = .ok (some line.directive) := by
  unfold readCode at h
  dsimp only at h
  split at h
  · cases h
    cases hline
  · split at h
    · cases h
    · cases h
      cases hline
    · next directive hread =>
      cases h
      obtain rfl := List.mem_singleton.1 hline
      exact hread

/-- The kept text of a line that leaves no literal open is kept whole. -/
theorem stripComments_kept (line : Nat) {number : Nat} {region : Region} {raw : List Char}
    (hstart : ∀ mark, region ≠ .literal mark)
    (hend : ∀ mark, (stripComments number region raw).2 ≠ .literal mark) :
    stripComments line .code (stripComments number region raw).1 =
      ((stripComments number region raw).1, .code) := by
  have hcode : ∀ after : Region, (∀ mark, after ≠ .literal mark) → after.ofKept = .code := by
    intro after hne
    cases after with
    | literal mark => exact absurd rfl (hne mark)
    | code => rfl
    | block openedOn => rfl
  have hsame := stripComments_stripComments number line region raw
  rwa [hcode _ hstart, hcode _ hend] at hsame

/-- A setting that is given by what stripping has left of a line is writable. -/
theorem writable_of_givesSetting {number : Nat} {region : Region} {raw : List Char}
    {setting : Setting} (h : GivesSetting (trim (stripComments number region raw).1) setting)
    (hraw : '\n' ∉ raw) (hstart : ∀ mark, region ≠ .literal mark)
    (hend : ∀ mark, (stripComments number region raw).2 ≠ .literal mark) :
    setting.Writable := by
  -- the proof needs two facts about the kept text, and not how it came about
  have hwhole := fun line => stripComments_kept line hstart hend
  have hchars : ∀ c ∈ (stripComments number region raw).1, c ∈ raw ∨ c = ' ' :=
    fun c => mem_of_mem_stripComments
  generalize (stripComments number region raw).1 = kept at h hwhole hchars
  obtain ⟨front, rest, hcode, hfront, hvalue⟩ := h.exists_split
  obtain ⟨before, after, hkept, hbefore, hafter⟩ := exists_trim kept
  obtain ⟨before', after', hrest, hbefore', hafter'⟩ := exists_trim rest
  -- the kept text is the value between characters that open nothing and blanks
  have hsplit : kept =
      (before ++ front ++ before') ++ (setting.value.toList ++ (after' ++ after)) := by
    rw [hcode, hrest, ← hvalue] at hkept
    simpa using hkept
  have hinert : ∀ c ∈ before ++ front ++ before', isInert c = true := by
    simp only [List.mem_append]
    rintro c ((hc | hc) | hc)
    · exact isInert_of_isBlank (hbefore c hc)
    · exact hfront c hc
    · exact isInert_of_isBlank (hbefore' c hc)
  have hblank : ∀ c ∈ after' ++ after, isBlank c = true := by
    simp only [List.mem_append]
    rintro c (hc | hc)
    · exact hafter' c hc
    · exact hafter c hc
  refine
    { name_valid := h.name_valid
      value_ne_nil := h.value_ne_nil
      value_trimmed := hvalue ▸ trimmed_trim rest
      value_oneLine := fun hmem => ?_
      value_kept := fun line => ?_ }
  · -- stripping brings in spaces only, so a line feed would come from the line
    have hline : '\n' ∈ kept := by
      rw [hsplit]
      simp [hmem]
    rcases hchars _ hline with hc | hc
    · exact hraw hc
    · cases hc
  · -- the front leaves the automaton in code, and the blanks at the end do not matter
    have htail := hwhole line
    rw [hsplit, stripComments_inert_append hinert, Prod.mk.injEq, List.append_cancel_left_eq]
      at htail
    exact stripComments_of_append_blank (by trivial) hblank (Prod.ext htail.1 htail.2)

/-- A setting on a line that is read is writable. -/
theorem writable_of_readLine {number : Nat} {region after : Region} {raw : List Char}
    {here : List Line} (h : readLine number region raw = .ok (here, after)) (hraw : '\n' ∉ raw)
    (hregion : ∀ mark, region ≠ .literal mark) {line : Line} (hline : line ∈ here)
    {setting : Setting} (hset : line.directive = .set setting) : setting.Writable := by
  rcases readLine_cases h with ⟨-, -, rfl, -⟩ | ⟨-, rfl, hend, hread⟩
  · cases hline
  · have hdirective := readDirective_of_mem_readCode hread hline
    rw [hset] at hdirective
    exact writable_of_givesSetting (givesSetting_of_readDirective hdirective) hraw hregion hend

/-- Every setting of the lines that are read is writable. -/
theorem writable_of_readLines {number : Nat} {region : Region} {raws : List (List Char)}
    {here : List Line} (h : readLines number region raws = .ok here)
    (hraws : ∀ raw ∈ raws, '\n' ∉ raw) (hregion : ∀ mark, region ≠ .literal mark)
    {line : Line} (hline : line ∈ here) {setting : Setting}
    (hset : line.directive = .set setting) : setting.Writable := by
  -- induction on the lines, none of which starts in a literal
  induction raws generalizing number region here with
  | nil =>
    cases region with
    | code =>
      cases h
      cases hline
    | literal mark => exact absurd rfl (hregion mark)
    | block openedOn => cases h
  | cons raw rest ih =>
    obtain ⟨⟨first, after⟩, hfirst, h⟩ := bind_eq_ok_iff.1 h
    obtain ⟨others, hothers, heq⟩ := bind_eq_ok_iff.1 h
    cases heq
    rcases List.mem_append.1 hline with hmem | hmem
    · exact writable_of_readLine hfirst (hraws raw (by simp)) hregion hmem hset
    · exact ih hothers (fun line hl => hraws line (by simp [hl]))
        (ne_literal_of_readLine hfirst) hmem

/-- Every setting of a layer text that is read is writable. -/
theorem writable_of_parse {text : String} {document : Document}
    (h : parse text = .ok document) {setting : Setting} (hmem : setting ∈ document.settings) :
    setting.Writable := by
  obtain ⟨here, hread, rfl⟩ := map_eq_ok_iff.1 h
  obtain ⟨line, hline, hset⟩ := List.mem_filterMap.1 hmem
  have hdirective : line.directive = .set setting := by
    cases hd : line.directive with
    | assert assertion => simp [hd, Directive.setting?] at hset
    | set other => simpa [hd, Directive.setting?] using hset
  exact writable_of_readLines hread (fun raw => not_mem_of_mem_lines) Region.code_ne_literal hline
    hdirective

end LayerText

end LayeredFlags
