import LayeredFlags.Proofs.LayerText.Reading
import Mathlib.Tactic.SplitIfs
/-!
# The Grammar of a Line

A line of code, without comments and without blanks at its ends, is read by cutting words off its
front. Here the same lines are described as wholes: which texts mean nothing, which assert a flag
and which set a constant. Reading accepts exactly these texts, each with the one meaning that it
has, and refuses every other one on the line where it stands.

## Main definitions

* `IsGap`: the blanks between two words;
* `keywords`: the words that assert a state;
* `Means`: the lines of code and what they say;
* `ReadsByGrammar`: a line of code is read as the grammar says.

## Main results

* `readDirective_of_means`, `means_of_readDirective`: what is read is what the grammar says;
* `Means.unique`: the grammar is unambiguous;
* `readsByGrammar_of_trimmed`: every line of code is read as the grammar says.
-/

namespace LayeredFlags.LayerText

open Text

/-- Blanks that separate two words, at least one. -/
structure IsGap (text : List Char) : Prop where
  /-- There is a blank. -/
  ne_nil : text ≠ []
  /-- There is nothing else. -/
  isBlank_of_mem : ∀ c ∈ text, isBlank c = true

/-- The words that assert that a flag has the state. -/
def keywords : FlagState → List String
  | .enabled => ["ENABLE", "#define"]
  | .disabled => ["DISABLE", "#undef"]

/-- The line of code says the directive, or nothing. -/
inductive Means : List Char → Option Directive → Prop where
  /-- A mark alone is a comment. -/
  | mark : Means ['#'] none
  /-- So is a mark with a blank or another mark behind it, and then any text. -/
  | comment {c : Char} {rest : List Char} (hc : isBlank c = true ∨ c = '#') :
      Means ('#' :: c :: rest) none
  /-- A keyword and a name assert the state of the flag. -/
  | assert {state : FlagState} {keyword name : String} {gap : List Char}
      (hkeyword : keyword ∈ keywords state) (hgap : IsGap gap)
      (hname : FlagName.Matches name) :
      Means (keyword.toList ++ gap ++ name.toList) (some (.assert ⟨name, state⟩))
  /-- A definition with a text behind its name sets a constant to that text. -/
  | set {name value : String} {gap gap' : List Char} (hgap : IsGap gap)
      (hname : FlagName.Matches name) (hgap' : IsGap gap') (hvalue : value.toList ≠ [])
      (htrimmed : Trimmed value.toList) :
      Means ("#define".toList ++ gap ++ name.toList ++ gap' ++ value.toList)
        (some (.set ⟨name, value⟩))

/-- The line of code is read as the grammar says, wherever it stands. -/
structure ReadsByGrammar (code : List Char) : Prop where
  /-- It is read as a directive, or as nothing, exactly if it means that. -/
  reads_iff : ∀ reading, readDirective code = .ok reading ↔ Means code reading
  /-- What it means is said on its line. -/
  accepted_iff : ∀ number reading,
    readCode number code = .ok (reading.toList.map (Line.mk number)) ↔ Means code reading
  /-- It is an error on its line exactly if it has no meaning. -/
  refused_iff : ∀ number,
    (∃ fault, readCode number code = .error ⟨number, fault⟩) ↔ ∀ reading, ¬ Means code reading
  /-- It does not have two meanings. -/
  unambiguous : ∀ reading other, Means code reading → Means code other → reading = other

/-! ## Words -/

/-- A name behind blanks is the next word, if it is not continued. -/
theorem nextWord_append_name {name rest blanks : List Char} (hblanks : blanks.all isBlank = true)
    (hname : FlagName.isIdentifier name = true)
    (hrest : ∀ c, rest.head? = some c → isBlank c = true) :
    nextWord (blanks ++ name ++ rest) = (name, rest) := by
  refine nextWord_append_append (List.all_eq_true.1 hblanks)
    (FlagName.ne_nil_of_isIdentifier hname) (fun c hc => ?_) hrest
  exact isBlank_of_isRest (FlagName.isRest_of_mem hname hc)

/-- A gap starts with a blank, whatever follows it. -/
theorem IsGap.head? {gap : List Char} (h : IsGap gap) (rest : List Char) (c : Char)
    (hc : (gap ++ rest).head? = some c) : isBlank c = true := by
  obtain ⟨first, others, rfl⟩ := List.exists_cons_of_ne_nil h.ne_nil
  obtain rfl : first = c := Option.some.inj hc
  exact h.isBlank_of_mem first List.mem_cons_self

/-- There is no word in front exactly if the text holds blanks only. -/
theorem nextWord_eq_nil_iff {text : List Char} :
    (nextWord text).1 = [] ↔ ∀ c ∈ text, isBlank c = true := by
  rw [← trimStart_eq_nil_iff]
  constructor
  · intro h
    -- what is left after the leading blanks starts with a character that a word takes
    cases hstart : trimStart text with
    | nil => rfl
    | cons c rest =>
      have hc := head?_trimStart_not_blank (c := c) (by rw [hstart]; rfl)
      simp [nextWord, hstart, hc] at h
  · intro h
    rw [nextWord, h]
    rfl

/-- What follows a word starts with a blank. -/
theorem head?_nextWord {text : List Char} {c : Char} (h : (nextWord text).2.head? = some c) :
    isBlank c = true := by
  have hnot := List.head?_dropWhile_not (!isBlank ·) (trimStart text)
  rw [nextWord] at h
  rw [h] at hnot
  simpa using hnot

/-- A text that starts with a blank is a gap, its first word and what follows it. -/
theorem exists_gap_nextWord {text : List Char} (hne : (nextWord text).1 ≠ [])
    (hstart : ∀ c, text.head? = some c → isBlank c = true) :
    ∃ gap, IsGap gap ∧ text = gap ++ (nextWord text).1 ++ (nextWord text).2 := by
  obtain ⟨gap, htext, hgap⟩ := exists_nextWord text
  refine ⟨gap, ⟨?_, hgap⟩, htext⟩
  rintro rfl
  -- without a gap the text starts with its first word, which holds no blank
  obtain ⟨c, word, hword⟩ := List.exists_cons_of_ne_nil hne
  have hblank := hstart c (by rw [htext, hword]; rfl)
  rw [not_isBlank_of_mem_nextWord (hword ▸ List.mem_cons_self)] at hblank
  cases hblank

/-- A trimmed text has no blanks at its end. -/
theorem eq_nil_of_trimmed_append {front after : List Char} (h : Trimmed (front ++ after))
    (hafter : ∀ c ∈ after, isBlank c = true) : after = [] := by
  by_contra hne
  have hlast := h.2 (after.getLast hne)
    (by rw [List.getLast?_append, List.getLast?_eq_some_getLast hne, Option.some_or])
  rw [hafter _ (List.getLast_mem hne)] at hlast
  cases hlast

/-! ## What the readers accept -/

/-- The text is the name between blanks. -/
def NameOnly (text : List Char) (name : String) : Prop :=
  (nextWord text).1 = name.toList ∧ ∀ c ∈ (nextWord text).2, isBlank c = true

/-- The text is the name and then the value, with blanks before and after each. -/
def NameAndValue (text : List Char) (name value : String) : Prop :=
  (nextWord text).1 = name.toList ∧ trim (nextWord text).2 = value.toList ∧ value.toList ≠ []

section Readers

variable {text : List Char} {directive : Directive}

/-- A name is read if it is valid. -/
theorem readName_eq_ok_iff {word : List Char} {name : String} :
    readName word = .ok name ↔ FlagName.isValid name = true ∧ word = name.toList := by
  unfold readName
  constructor
  · intro h
    split_ifs at h with hname
    obtain rfl := Except.ok.inj h
    rw [FlagName.isValid, String.toList_ofList]
    exact ⟨hname, rfl⟩
  · rintro ⟨hname, rfl⟩
    rw [FlagName.isValid] at hname
    rw [if_pos hname, String.ofList_toList]

/-- A keyword of a state is followed by a name and nothing else. -/
theorem readFlag_eq_ok_iff {keyword : String} {state : FlagState} :
    readFlag keyword state text = .ok directive ↔
      ∃ name, FlagName.isValid name = true ∧ NameOnly text name ∧
        directive = .assert ⟨name, state⟩ := by
  have hextra := @nextWord_eq_nil_iff (nextWord text).2
  unfold readFlag
  dsimp only
  constructor
  · intro h
    split_ifs at h with hword hrest
    obtain ⟨name, hname, heq⟩ := bind_eq_ok_iff.1 h
    obtain ⟨hvalid, hspelled⟩ := readName_eq_ok_iff.1 hname
    exact ⟨name, hvalid, ⟨hspelled, hextra.1 (not_not.1 hrest)⟩, (Except.ok.inj heq).symm⟩
  · rintro ⟨name, hvalid, ⟨hspelled, hblank⟩, rfl⟩
    have hne : (nextWord text).1 ≠ [] := hspelled ▸ FlagName.ne_nil_of_isIdentifier hvalid
    rw [if_neg hne, if_neg (not_not.2 (hextra.2 hblank)), readName_eq_ok_iff.2 ⟨hvalid, hspelled⟩]
    rfl

/-- `#undef` is followed by a name and nothing else. -/
theorem readUndef_eq_ok_iff :
    readUndef text = .ok directive ↔
      ∃ name, FlagName.isValid name = true ∧ NameOnly text name ∧
        directive = .assert ⟨name, .disabled⟩ := by
  have hextra := @trim_eq_nil_iff (nextWord text).2
  unfold readUndef
  dsimp only
  constructor
  · intro h
    by_cases hword : (nextWord text).1 = []
    · simp [hword] at h
    by_cases hrest : trim (nextWord text).2 = []
    · rw [if_neg hword, if_neg (not_not.2 hrest)] at h
      obtain ⟨name, hname, heq⟩ := bind_eq_ok_iff.1 h
      obtain ⟨hvalid, hspelled⟩ := readName_eq_ok_iff.1 hname
      exact ⟨name, hvalid, ⟨hspelled, hextra.1 hrest⟩, (Except.ok.inj heq).symm⟩
    · simp [hword, hrest] at h
  · rintro ⟨name, hvalid, ⟨hspelled, hblank⟩, rfl⟩
    have hne : (nextWord text).1 ≠ [] := hspelled ▸ FlagName.ne_nil_of_isIdentifier hvalid
    rw [if_neg hne, if_neg (not_not.2 (hextra.2 hblank)), readName_eq_ok_iff.2 ⟨hvalid, hspelled⟩]
    rfl

/-- `#define` is followed by a name and possibly a value. -/
theorem readDefine_eq_ok_iff :
    readDefine text = .ok directive ↔
      ∃ name, FlagName.isValid name = true ∧
        (NameOnly text name ∧ directive = .assert ⟨name, .enabled⟩ ∨
          ∃ value, NameAndValue text name value ∧ directive = .set ⟨name, value⟩) := by
  have hextra := @trim_eq_nil_iff (nextWord text).2
  unfold readDefine
  dsimp only
  constructor
  · intro h
    by_cases hword : (nextWord text).1 = []
    · simp [hword] at h
    rw [if_neg hword] at h
    obtain ⟨name, hname, heq⟩ := bind_eq_ok_iff.1 h
    obtain ⟨hvalid, hspelled⟩ := readName_eq_ok_iff.1 hname
    refine ⟨name, hvalid, ?_⟩
    split_ifs at heq with hrest
    · exact .inl ⟨⟨hspelled, hextra.1 hrest⟩, (Except.ok.inj heq).symm⟩
    · refine .inr ⟨_, ⟨hspelled, String.toList_ofList.symm, ?_⟩, (Except.ok.inj heq).symm⟩
      rwa [String.toList_ofList]
  · rintro ⟨name, hvalid, ⟨⟨hspelled, hblank⟩, rfl⟩ | ⟨value, ⟨hspelled, hvalue, hne'⟩, rfl⟩⟩
    · have hne : (nextWord text).1 ≠ [] := hspelled ▸ FlagName.ne_nil_of_isIdentifier hvalid
      rw [if_neg hne, readName_eq_ok_iff.2 ⟨hvalid, hspelled⟩, ok_bind, if_pos (hextra.2 hblank)]
      rfl
    · have hne : (nextWord text).1 ≠ [] := hspelled ▸ FlagName.ne_nil_of_isIdentifier hvalid
      rw [if_neg hne, readName_eq_ok_iff.2 ⟨hvalid, hspelled⟩, ok_bind, hvalue, if_neg hne',
        String.ofList_toList]
      rfl

/-- Of two keywords each has its own way to read on, and any other word is an error. -/
theorem dispatch_eq_ok_iff {word keyword keyword' : List Char} (hne : keyword ≠ keyword')
    {first second : Except Fault Directive} {fault : Fault} :
    (if word = keyword then first else if word = keyword' then second else .error fault) =
        .ok directive ↔
      word = keyword ∧ first = .ok directive ∨ word = keyword' ∧ second = .ok directive := by
  split_ifs with hfirst hsecond
  · simp [hfirst, hne]
  · simp [hsecond, hne.symm]
  · simp [hfirst, hsecond]

/-- A line that starts with a word starts with the keyword of a state. -/
theorem readWords_eq_ok_iff :
    readWords text = .ok directive ↔
      (nextWord text).1 = "ENABLE".toList ∧
          readFlag "ENABLE" .enabled (nextWord text).2 = .ok directive ∨
        (nextWord text).1 = "DISABLE".toList ∧
          readFlag "DISABLE" .disabled (nextWord text).2 = .ok directive :=
  dispatch_eq_ok_iff (by decide)

/-- A preprocessor line has one of two keywords. -/
theorem readPreprocessor_eq_ok_iff :
    readPreprocessor text = .ok directive ↔
      (nextWord text).1 = "define".toList ∧ readDefine (nextWord text).2 = .ok directive ∨
        (nextWord text).1 = "undef".toList ∧ readUndef (nextWord text).2 = .ok directive :=
  dispatch_eq_ok_iff (by decide)

end Readers

/-- A line is a comment as a whole if it is a mark alone, or one with a blank or another mark
behind it. -/
theorem isHashComment_iff {code : List Char} :
    isHashComment code = true ↔
      code = ['#'] ∨ ∃ c rest, code = '#' :: c :: rest ∧ (isBlank c = true ∨ c = '#') := by
  match code with
  | [] => simp [isHashComment]
  | [c] => simp [isHashComment]
  | c :: d :: rest => simp [isHashComment, and_comm]

/-- Exactly the comments say nothing. -/
theorem readDirective_eq_none_iff {code : List Char} :
    readDirective code = .ok none ↔ isHashComment code = true := by
  unfold readDirective
  split_ifs with hcomment
  · simp [hcomment]
  · split <;> simp [hcomment, map_eq_ok_iff]

/-- A line that is no comment is read behind its mark, or from its first word if it has none. -/
theorem readDirective_eq_some_iff {code : List Char} {directive : Directive} :
    readDirective code = .ok (some directive) ↔
      isHashComment code = false ∧
        ((∃ text, code = '#' :: text ∧ readPreprocessor text = .ok directive) ∨
          code.head? ≠ some '#' ∧ readWords code = .ok directive) := by
  unfold readDirective
  split_ifs with hcomment
  · simp [hcomment]
  · split
    · simp [hcomment, map_eq_ok_iff]
    · next hmark =>
      have hhead : code.head? ≠ some '#' := by
        intro h
        obtain ⟨text, rfl⟩ := List.head?_eq_some_iff.1 h
        exact hmark text rfl
      have hnot : ∀ text, code ≠ '#' :: text := fun text heq => hmark text heq
      simp [hcomment, map_eq_ok_iff, hhead, hnot]

/-! ## From the grammar to the reading -/

section Spelled

variable {name value : String} {gap gap' : List Char}

/-- A valid name behind a gap is the name and nothing else. -/
theorem NameOnly.of_gap (hgap : IsGap gap) (hname : FlagName.isValid name = true) :
    NameOnly (gap ++ name.toList) name := by
  have hword : nextWord (gap ++ name.toList ++ []) = (name.toList, []) :=
    nextWord_append_name (List.all_eq_true.2 hgap.isBlank_of_mem) hname (by simp)
  rw [List.append_nil] at hword
  rw [NameOnly, hword]
  exact ⟨rfl, List.forall_mem_nil _⟩

/-- A valid name and a trimmed value, each behind a gap, are the name and the value. -/
theorem NameAndValue.of_gap (hgap : IsGap gap) (hname : FlagName.isValid name = true)
    (hgap' : IsGap gap') (hvalue : value.toList ≠ []) (htrimmed : Trimmed value.toList) :
    NameAndValue (gap ++ (name.toList ++ (gap' ++ value.toList))) name value := by
  rw [NameAndValue, ← List.append_assoc, nextWord_append_name
    (List.all_eq_true.2 hgap.isBlank_of_mem) hname (hgap'.head? value.toList)]
  exact ⟨rfl, by rw [trim_append_left hgap'.isBlank_of_mem, trim_eq_self htrimmed], hvalue⟩

/-- A keyword is the next word if a gap follows it. -/
theorem nextWord_keyword {keyword : List Char} (hne : keyword ≠ [])
    (hword : keyword.all (!isBlank ·) = true) (hgap : IsGap gap) (rest : List Char) :
    nextWord (keyword ++ (gap ++ rest)) = (keyword, gap ++ rest) := by
  have hnone : ∀ c ∈ ([] : List Char), isBlank c = true := List.forall_mem_nil _
  exact nextWord_append_append hnone hne (by simpa using hword) (hgap.head? rest)

/-- What a line means is what is read from it. -/
theorem readDirective_of_means {code : List Char} {reading : Option Directive}
    (h : Means code reading) : readDirective code = .ok reading := by
  cases h with
  | mark => rfl
  | comment hc =>
    exact readDirective_eq_none_iff.2 (isHashComment_iff.2 (.inr ⟨_, _, rfl, hc⟩))
  | @assert state keyword name gap hkeyword hgap hmatches =>
    have hname := FlagName.isValid_iff_matches.2 hmatches
    have honly := NameOnly.of_gap hgap hname
    rw [List.append_assoc, readDirective_eq_some_iff]
    -- each state has a keyword that is a word, and one behind the mark
    cases state with
    | enabled =>
      obtain rfl | rfl : keyword = "ENABLE" ∨ keyword = "#define" := by
        simpa [keywords] using hkeyword
      · refine ⟨rfl, .inr ⟨by simp, readWords_eq_ok_iff.2 (.inl ?_)⟩⟩
        rw [nextWord_keyword (by decide) rfl hgap]
        exact ⟨rfl, readFlag_eq_ok_iff.2 ⟨name, hname, honly, rfl⟩⟩
      · refine ⟨rfl, .inl ⟨"define".toList ++ (gap ++ name.toList), rfl,
          readPreprocessor_eq_ok_iff.2 (.inl ?_)⟩⟩
        rw [nextWord_keyword (by decide) rfl hgap]
        exact ⟨rfl, readDefine_eq_ok_iff.2 ⟨name, hname, .inl ⟨honly, rfl⟩⟩⟩
    | disabled =>
      obtain rfl | rfl : keyword = "DISABLE" ∨ keyword = "#undef" := by
        simpa [keywords] using hkeyword
      · refine ⟨rfl, .inr ⟨by simp, readWords_eq_ok_iff.2 (.inr ?_)⟩⟩
        rw [nextWord_keyword (by decide) rfl hgap]
        exact ⟨rfl, readFlag_eq_ok_iff.2 ⟨name, hname, honly, rfl⟩⟩
      · refine ⟨rfl, .inl ⟨"undef".toList ++ (gap ++ name.toList), rfl,
          readPreprocessor_eq_ok_iff.2 (.inr ?_)⟩⟩
        rw [nextWord_keyword (by decide) rfl hgap]
        exact ⟨rfl, readUndef_eq_ok_iff.2 ⟨name, hname, honly, rfl⟩⟩
  | @set name value gap gap' hgap hmatches hgap' hvalue htrimmed =>
    have hname := FlagName.isValid_iff_matches.2 hmatches
    have hboth := NameAndValue.of_gap hgap hname hgap' hvalue htrimmed
    simp only [List.append_assoc]
    refine readDirective_eq_some_iff.2 ⟨rfl, .inl
      ⟨"define".toList ++ (gap ++ (name.toList ++ (gap' ++ value.toList))), rfl,
        readPreprocessor_eq_ok_iff.2 (.inl ?_)⟩⟩
    rw [nextWord_keyword (by decide) rfl hgap]
    exact ⟨rfl, readDefine_eq_ok_iff.2 ⟨name, hname, .inr ⟨value, hboth, rfl⟩⟩⟩

/-- No line has two meanings. -/
theorem Means.unique {code : List Char} {reading other : Option Directive}
    (h : Means code reading) (h' : Means code other) : reading = other :=
  Except.ok.inj ((readDirective_of_means h).symm.trans (readDirective_of_means h'))

end Spelled

/-! ## From the reading to the grammar -/

section Trimmed

variable {name value : String} {front text : List Char}

/-- A text without leading blanks is its first word and what follows it. -/
theorem nextWord_append_of_head? (h : ∀ c, text.head? = some c → isBlank c = false) :
    (nextWord text).1 ++ (nextWord text).2 = text := by
  rw [nextWord_append, trimStart_eq_self h]

/-- A name and nothing else stands behind a gap at the end of a trimmed text. -/
theorem NameOnly.exists_gap (h : NameOnly text name) (hname : FlagName.isValid name = true)
    (hstart : ∀ c, text.head? = some c → isBlank c = true) (hend : Trimmed (front ++ text)) :
    ∃ gap, IsGap gap ∧ text = gap ++ name.toList := by
  obtain ⟨hword, hblank⟩ := h
  have hne : (nextWord text).1 ≠ [] := hword ▸ FlagName.ne_nil_of_isIdentifier hname
  obtain ⟨gap, hgap, htext⟩ := exists_gap_nextWord hne hstart
  refine ⟨gap, hgap, ?_⟩
  rw [htext, ← List.append_assoc] at hend
  rw [htext, eq_nil_of_trimmed_append hend hblank, hword, List.append_nil]

/-- A name and a value stand behind a gap each at the end of a trimmed text. -/
theorem NameAndValue.exists_gaps (h : NameAndValue text name value)
    (hname : FlagName.isValid name = true)
    (hstart : ∀ c, text.head? = some c → isBlank c = true) (hend : Trimmed (front ++ text)) :
    ∃ gap gap', IsGap gap ∧ IsGap gap' ∧ Trimmed value.toList ∧
      text = gap ++ name.toList ++ gap' ++ value.toList := by
  obtain ⟨hword, htrim, hvalue⟩ := h
  have hne : (nextWord text).1 ≠ [] := hword ▸ FlagName.ne_nil_of_isIdentifier hname
  have hvalueTrimmed : Trimmed value.toList := htrim ▸ trimmed_trim _
  obtain ⟨gap, hgap, htext⟩ := exists_gap_nextWord hne hstart
  obtain ⟨before, after, hrest, hbefore, hafter⟩ := exists_trim (nextWord text).2
  rw [htrim] at hrest
  -- blanks behind the value would stand at the end of the whole text
  have hnil : after = [] := by
    rw [htext, hrest, ← List.append_assoc, ← List.append_assoc] at hend
    exact eq_nil_of_trimmed_append hend hafter
  rw [hnil, List.append_nil] at hrest
  have hbeforeNe : before ≠ [] := by
    rintro rfl
    -- the value would follow the name without a blank between them
    obtain ⟨c, others, hcons⟩ := List.exists_cons_of_ne_nil hvalue
    have hblank := @head?_nextWord text c (by rw [hrest, hcons]; rfl)
    rw [hvalueTrimmed.1 c (by rw [hcons]; rfl)] at hblank
    cases hblank
  refine ⟨gap, before, hgap, ⟨hbeforeNe, hbefore⟩, hvalueTrimmed, ?_⟩
  rw [htext, hrest, hword]
  simp

/-- A keyword of a state with a name behind it asserts the state. -/
theorem means_assert {keyword : String} {state : FlagState} (hkeyword : keyword ∈ keywords state)
    (hname : FlagName.isValid name = true) (hstart : ∀ c, text.head? = some c → isBlank c = true)
    (hend : Trimmed (keyword.toList ++ text)) (honly : NameOnly text name) :
    Means (keyword.toList ++ text) (some (.assert ⟨name, state⟩)) := by
  obtain ⟨gap, hgap, rfl⟩ := honly.exists_gap hname hstart hend
  rw [← List.append_assoc]
  exact .assert hkeyword hgap (FlagName.isValid_iff_matches.1 hname)

/-- The keyword of a definition with a name and a value behind it sets the constant. -/
theorem means_set (hname : FlagName.isValid name = true)
    (hstart : ∀ c, text.head? = some c → isBlank c = true)
    (hend : Trimmed ("#define".toList ++ text)) (hboth : NameAndValue text name value) :
    Means ("#define".toList ++ text) (some (.set ⟨name, value⟩)) := by
  obtain ⟨gap, gap', hgap, hgap', hvalue, rfl⟩ := hboth.exists_gaps hname hstart hend
  simp only [← List.append_assoc]
  exact .set hgap (FlagName.isValid_iff_matches.1 hname) hgap' hboth.2.2 hvalue

/-- What is read from a trimmed line is what the line means. -/
theorem means_of_readDirective {code : List Char} {reading : Option Directive}
    (htrimmed : Trimmed code) (h : readDirective code = .ok reading) : Means code reading := by
  cases reading with
  | none =>
    rcases isHashComment_iff.1 (readDirective_eq_none_iff.1 h) with rfl | ⟨c, rest, rfl, hc⟩
    · exact .mark
    · exact .comment hc
  | some directive =>
    obtain ⟨hcomment, ⟨text, rfl, hread⟩ | ⟨hmark, hread⟩⟩ := readDirective_eq_some_iff.1 h
    · -- the mark would be a comment if a blank followed it
      have hsplit : (nextWord text).1 ++ (nextWord text).2 = text := by
        refine nextWord_append_of_head? fun c hc => Bool.eq_false_iff.2 fun hblank => ?_
        obtain ⟨rest, rfl⟩ := List.head?_eq_some_iff.1 hc
        rw [isHashComment_iff.2 (.inr ⟨c, rest, rfl, .inl hblank⟩)] at hcomment
        cases hcomment
      rcases readPreprocessor_eq_ok_iff.1 hread with ⟨hword, hdefine⟩ | ⟨hword, hundef⟩
      · have hcode : '#' :: text = "#define".toList ++ (nextWord text).2 := by
          rw [hword] at hsplit
          exact congrArg ('#' :: ·) hsplit.symm
        rw [hcode] at htrimmed ⊢
        obtain ⟨name, hname, ⟨honly, rfl⟩ | ⟨value, hboth, rfl⟩⟩ := readDefine_eq_ok_iff.1 hdefine
        · exact means_assert (by decide) hname (fun c => head?_nextWord) htrimmed honly
        · exact means_set hname (fun c => head?_nextWord) htrimmed hboth
      · have hcode : '#' :: text = "#undef".toList ++ (nextWord text).2 := by
          rw [hword] at hsplit
          exact congrArg ('#' :: ·) hsplit.symm
        rw [hcode] at htrimmed ⊢
        obtain ⟨name, hname, honly, rfl⟩ := readUndef_eq_ok_iff.1 hundef
        exact means_assert (by decide) hname (fun c => head?_nextWord) htrimmed honly
    · have hsplit := nextWord_append_of_head? htrimmed.1
      rcases readWords_eq_ok_iff.1 hread with ⟨hword, hflag⟩ | ⟨hword, hflag⟩
      · obtain ⟨name, hname, honly, rfl⟩ := readFlag_eq_ok_iff.1 hflag
        rw [← hsplit, hword] at htrimmed ⊢
        exact means_assert (by decide) hname (fun c => head?_nextWord) htrimmed honly
      · obtain ⟨name, hname, honly, rfl⟩ := readFlag_eq_ok_iff.1 hflag
        rw [← hsplit, hword] at htrimmed ⊢
        exact means_assert (by decide) hname (fun c => head?_nextWord) htrimmed honly

end Trimmed

/-! ## Lines of code -/

/-- What is read from a line of code that is not empty stands on that line. -/
theorem readCode_eq_ok_iff {number : Nat} {code : List Char} (hne : code ≠ [])
    (htrimmed : Trimmed code) {reading : Option Directive} :
    readCode number code = .ok (reading.toList.map (Line.mk number)) ↔
      readDirective code = .ok reading := by
  rw [readCode, trim_eq_self htrimmed]
  simp only [hne, ↓reduceIte]
  cases hread : readDirective code with
  | error fault => simp
  | ok found => cases found <;> cases reading <;> simp

/-- A line of code that is not empty is refused on that line. -/
theorem exists_readCode_eq_error_iff {number : Nat} {code : List Char} (hne : code ≠ [])
    (htrimmed : Trimmed code) :
    (∃ fault, readCode number code = .error ⟨number, fault⟩) ↔
      ∀ reading, readDirective code ≠ .ok reading := by
  rw [readCode, trim_eq_self htrimmed]
  simp only [hne, ↓reduceIte]
  cases hread : readDirective code with
  | error fault => simp
  | ok found => cases found <;> simp

/-- Every line of code, trimmed and not empty, is read as the grammar says. -/
theorem readsByGrammar_of_trimmed {code : List Char} (hne : code ≠ []) (htrimmed : Trimmed code) :
    ReadsByGrammar code := by
  have hmeans : ∀ reading, readDirective code = .ok reading ↔ Means code reading :=
    fun reading => ⟨means_of_readDirective htrimmed, readDirective_of_means⟩
  exact
    { reads_iff := hmeans
      accepted_iff := fun number reading => by rw [readCode_eq_ok_iff hne htrimmed, hmeans]
      refused_iff := fun number => by
        simp only [exists_readCode_eq_error_iff hne htrimmed, ne_eq, hmeans]
      unambiguous := fun reading other => Means.unique }

/-- A definition whose value holds a blank and marks of its own. -/
def blockSizeLine : List Char := "#define\u00a0BLOCK_SIZE \t(4 << 10) # bytes".toList

/-- The value of the line is everything behind the blanks that follow the name. -/
theorem readsByGrammar_blockSizeLine :
    blockSizeLine ≠ [] ∧ Trimmed blockSizeLine ∧
      Means blockSizeLine (some (.set ⟨"BLOCK_SIZE", "(4 << 10) # bytes"⟩)) ∧
      ReadsByGrammar blockSizeLine := by
  have hne : blockSizeLine ≠ [] := by decide
  have htrimmed : Trimmed blockSizeLine := by
    refine ⟨?_, ?_⟩
    · rintro c ⟨⟩
      rfl
    · rintro c ⟨⟩
      rfl
  have hgrammar := readsByGrammar_of_trimmed hne htrimmed
  exact ⟨hne, htrimmed, (hgrammar.reads_iff _).1 (by decide +kernel), hgrammar⟩

end LayeredFlags.LayerText
