import LayeredFlags.Proofs.Header.Plain
/-!
# Annotated Headers

In an annotated header every flag has a note in a block comment on its line. A note is free
text, and it may end its comment before its own end. This file says exactly which notes leave
the meaning of a header alone, and gives a description that does not.

## Main definitions

* `SilentFrom`, `Silent`: nothing is read of some lines, and of a note, inside a comment.

## Main results

* `says_annotatedLine_iff`: a line with a note says its flag exactly when the note is silent;
* `silent_of_not_closing`: a note without a closing mark is silent;
* `Generated.annotatedHeader_iff`: an annotated header says what the plain one does exactly when
  all its notes are silent;
* `globbed_annotation_differs`: a description with a closing mark in it turns a flag into a
  constant.
-/

namespace LayeredFlags

open Text LayerText

/-- Nothing is read of some lines that start in a block comment: the first of them leaves only
blanks and no open literal, and the others say nothing. -/
def SilentFrom (number openedOn : Nat) (raws : List (List Char)) : Prop :=
  ∃ first others kept after, raws = first :: others ∧
    stripComments number (.block openedOn) first = (kept, after) ∧
    (∀ c ∈ kept, isBlank c = true) ∧ (∀ mark, after ≠ .literal mark) ∧
    readLines (number + 1) after others = .ok []

/-- Nothing is read of a note inside a comment that is closed right after it. -/
def Silent (note : String) : Prop :=
  SilentFrom 1 1 (lines (note.toList ++ [' ', '*', '/']))

/-! ## The line of a flag -/

/-- What stands between the name of a flag and its note. -/
def noteOpening (flag : String) : List Char :=
  List.replicate (nameColumn - flag.length) ' ' ++ [' ', '/', '*', ' ']

theorem Entry.toList_annotatedLine (registry : Registry) (entry : Entry) :
    (entry.annotatedLine registry).toList =
      writtenFront entry.state entry.flag.toList ++ noteOpening entry.flag ++
        (entry.note registry).toList ++ [' ', '*', '/'] ++ ['\n'] := by
  simp [annotatedLine, writtenFront, noteOpening, Text.padEnd, toString]

/-- The first line of a note goes behind the name of the flag. -/
theorem lines_annotatedLine {registry : Registry} {entry : Entry} {first : List Char}
    {others : List (List Char)} (hname : FlagName.isValid entry.flag = true)
    (h : lines ((entry.note registry).toList ++ [' ', '*', '/']) = first :: others) :
    lines (entry.annotatedLine registry).toList =
      writtenLine entry.state entry.flag.toList (noteOpening entry.flag ++ first) :: others := by
  have hbefore : ∀ c ∈ writtenFront entry.state entry.flag.toList ++ noteOpening entry.flag,
      c ≠ '\r' ∧ c ≠ '\n' := by
    intro c hc
    rcases List.mem_append.1 hc with hfront | hopening
    · exact ne_lineEnd_of_mem_writtenFront hname hfront
    · rcases List.mem_append.1 hopening with hpad | hmark
      · obtain rfl := List.eq_of_mem_replicate hpad
        decide
      · have hmarks : ∀ d ∈ [' ', '/', '*', ' '], d ≠ '\r' ∧ d ≠ '\n' := by simp
        exact hmarks c hmark
  -- the line feed at the end adds no line, because the closing mark stands before it
  rw [entry.toList_annotatedLine, lines_concat (by simp)]
  · rw [List.append_assoc, lines_append_of_eq_cons hbefore h, List.append_assoc]
    rfl
  · intro c hc
    obtain rfl : '/' = c := by simpa using hc
    decide

/-- The comment in front of a note starts with a blank and leaves blanks, and then what the
note leaves. -/
theorem stripComments_noteOpening {first kept : List Char} {after : Region} (flag : String)
    (h : stripComments 1 (.block 1) first = (kept, after)) :
    (∀ c, (noteOpening flag ++ first).head? = some c → isBlank c = true) ∧
      ∃ blanks, (∀ c ∈ blanks, isBlank c = true) ∧
        stripComments 1 .code (noteOpening flag ++ first) = (blanks ++ kept, after) := by
  set pad := List.replicate (nameColumn - flag.length) ' ' ++ [' '] with hpad
  have hblank : ∀ c ∈ pad, isBlank c = true := by
    intro c hc
    have hspace : c = ' ' := by
      rcases List.mem_append.1 hc with hc | hc
      · exact List.eq_of_mem_replicate hc
      · exact List.mem_singleton.1 hc
    rw [hspace]
    rfl
  have htext : noteOpening flag ++ first = pad ++ '/' :: '*' :: ' ' :: first := by
    simp [noteOpening, hpad]
  have hinside : stripComments 1 .code ('/' :: '*' :: ' ' :: first) = (kept, after) := by
    rw [stripComments_blockComment, stripComments_inBlock (by simp [ClosesComment]), h]
  refine ⟨fun c hc => ?_, pad, hblank, ?_⟩
  · obtain ⟨d, more, hmore⟩ := List.exists_cons_of_ne_nil (show pad ≠ [] by simp [hpad])
    rw [htext, hmore] at hc
    have hd : d ∈ pad := hmore ▸ List.mem_cons_self
    exact Option.some.inj hc ▸ hblank d hd
  · rw [htext, stripComments_inert_append fun c hc => isInert_of_isBlank (hblank c hc), hinside]

/-- The line of a flag is read as its first line and then the others. -/
theorem readLines_annotatedLine {registry : Registry} {entry : Entry} {first kept : List Char}
    {others : List (List Char)} {after : Region} {here : List Line}
    (hname : FlagName.isValid entry.flag = true)
    (hlines : lines ((entry.note registry).toList ++ [' ', '*', '/']) = first :: others)
    (hstrip : stripComments 1 (.block 1) first = (kept, after)) :
    readLines 1 .code (lines (entry.annotatedLine registry).toList) = .ok here ↔
      (∀ mark, after ≠ .literal mark) ∧ ∃ directive there,
        writtenDirective entry.state entry.flag.toList kept = .ok directive ∧
        readLines 2 after others = .ok there ∧ here = ⟨1, directive⟩ :: there := by
  -- the blanks that the opening leaves do not change what the line says
  obtain ⟨hhead, blanks, hblanks, hopening⟩ := stripComments_noteOpening entry.flag hstrip
  have hdirective : writtenDirective entry.state entry.flag.toList (blanks ++ kept) =
      writtenDirective entry.state entry.flag.toList kept := by
    simp only [writtenDirective, trim_append_left hblanks]
  have hline : ∀ start next, readLine 1 .code
      (writtenLine entry.state entry.flag.toList (noteOpening entry.flag ++ first)) =
        .ok (start, next) ↔ after = next ∧ (∀ mark, next ≠ .literal mark) ∧ ∃ directive,
          writtenDirective entry.state entry.flag.toList kept = .ok directive ∧
            start = [⟨1, directive⟩] := by
    intro start next
    rw [readLine_writtenLine hname hhead, hopening, hdirective]
  rw [lines_annotatedLine hname hlines, readLines]
  constructor
  · intro h
    obtain ⟨⟨start, next⟩, hstart, hrest⟩ := bind_eq_ok_iff.1 h
    obtain ⟨there, hthere, heq⟩ := bind_eq_ok_iff.1 hrest
    obtain ⟨rfl, hne, directive, hwritten, rfl⟩ := (hline start next).1 hstart
    obtain rfl := Except.ok.inj heq
    exact ⟨hne, directive, there, hwritten, hthere, rfl⟩
  · rintro ⟨hne, directive, there, hwritten, hthere, rfl⟩
    refine bind_eq_ok_iff.2 ⟨([⟨1, directive⟩], after), (hline _ _).2 ⟨rfl, hne, directive,
      hwritten, rfl⟩, bind_eq_ok_iff.2 ⟨there, hthere, rfl⟩⟩

/-- A note has a first line, because its comment is closed behind it. -/
theorem exists_lines_note (note : String) :
    ∃ first others, lines (note.toList ++ [' ', '*', '/']) = first :: others := by
  refine List.exists_cons_of_ne_nil fun h => ?_
  simpa using lines_eq_nil_iff.1 h

/-- A written line asserts its state exactly when only blanks follow the name. -/
theorem writtenDirective_eq_assert_iff {state : FlagState} {name : String} {kept : List Char} :
    writtenDirective state name.toList kept = .ok (.assert ⟨name, state⟩) ↔
      ∀ c ∈ kept, isBlank c = true := by
  rw [← trim_eq_nil_iff]
  by_cases htrim : trim kept = []
  · simp [writtenDirective, htrim]
  · cases state <;> simp [writtenDirective, htrim]

/-- A line with a note says its flag exactly when the note is silent. -/
theorem says_annotatedLine_iff {registry : Registry} {entry : Entry}
    (hname : FlagName.isValid entry.flag = true) :
    Says (lines (entry.annotatedLine registry).toList) [.assert ⟨entry.flag, entry.state⟩] ↔
      Silent (entry.note registry) := by
  obtain ⟨first, others, hlines⟩ := exists_lines_note (entry.note registry)
  obtain ⟨kept, after, hstrip⟩ : ∃ kept after, stripComments 1 (.block 1) first = (kept, after) :=
    ⟨_, _, rfl⟩
  have hread := fun here => @readLines_annotatedLine registry entry first kept others after here
    hname hlines hstrip
  constructor
  · intro h
    -- the first line makes the one directive, so that nothing is left for the others
    obtain ⟨here, hhere, hdirectives⟩ := h 1
    obtain ⟨hne, directive, there, hwritten, hthere, rfl⟩ := (hread here).1 hhere
    obtain ⟨rfl, hnone⟩ := List.cons.inj hdirectives
    obtain rfl := List.map_eq_nil_iff.1 hnone
    exact ⟨first, others, kept, after, hlines, hstrip, writtenDirective_eq_assert_iff.1 hwritten,
      hne, hthere⟩
  · rintro ⟨first', others', kept', after', hlines', hstrip', hblank, hne, hthere⟩
    -- the lines of the note are the ones named above
    obtain ⟨rfl, rfl⟩ := List.cons.inj (hlines.symm.trans hlines')
    obtain ⟨rfl, rfl⟩ := Prod.mk.inj (hstrip.symm.trans hstrip')
    have hhere := (hread _).2 ⟨hne, _, [], writtenDirective_eq_assert_iff.2 hblank, hthere, rfl⟩
    exact says_of_readLines hhere

/-- A line with a note says something, and no comment is open behind it. -/
theorem endsInCode_annotatedLine {registry : Registry} {entry : Entry}
    (hname : FlagName.isValid entry.flag = true) :
    EndsInCode (lines (entry.annotatedLine registry).toList) ∧
      ¬ Says (lines (entry.annotatedLine registry).toList) [] := by
  constructor
  · have hclose : ∀ c, (writtenFront entry.state entry.flag.toList ++ noteOpening entry.flag ++
        (entry.note registry).toList ++ [' ', '*', '/']).getLast? = some c →
          c ≠ '\r' ∧ c ≠ '\n' := by
      intro c hc
      obtain rfl : '/' = c := by simpa using hc
      decide
    rw [entry.toList_annotatedLine, lines_concat (by simp) hclose]
    obtain ⟨others, last, hlines, -⟩ := @exists_lines_append [' ', '*', '/'] (by decide) (by decide)
      (writtenFront entry.state entry.flag.toList ++ noteOpening entry.flag ++
        (entry.note registry).toList)
    rw [hlines]
    exact endsInCode_close others last
  · intro h
    obtain ⟨first, others, hlines⟩ := exists_lines_note (entry.note registry)
    obtain ⟨here, hhere, hnone⟩ := h 1
    obtain ⟨-, directive, there, -, -, rfl⟩ := (readLines_annotatedLine hname hlines rfl).1 hhere
    cases hnone

/-! ## Notes without a closing mark -/

/-- A line that ends inside the comment may stand in front of silent lines. -/
theorem SilentFrom.behind {number openedOn : Nat} {raws : List (List Char)}
    (h : SilentFrom (number + 1) openedOn raws) : SilentFrom number openedOn ([] :: raws) := by
  obtain ⟨first, others, kept, after, rfl, hstrip, hblank, hne, hread⟩ := h
  have hblock : Region.block openedOn = .code → isHashComment (trim first) = false := by
    intro h
    cases h
  have hfirst : readLine (number + 1) (.block openedOn) first = .ok ([], after) := by
    rw [readLine_eq_ok_iff hblock, hstrip]
    refine ⟨rfl, hne, ?_⟩
    simp [readCode, trim_eq_nil_iff.2 hblank]
  refine ⟨[], first :: others, [], .block openedOn, rfl, rfl, List.forall_mem_nil _,
    Region.block_ne_literal openedOn, ?_⟩
  simp [readLines, hfirst, hread]

/-- A character that does not close the comment may stand in front of silent lines. -/
theorem SilentFrom.consHead {number openedOn : Nat} {raws : List (List Char)} {c : Char}
    (h : SilentFrom number openedOn raws)
    (hclose : ∀ first others, raws = first :: others → ¬ ClosesComment c first) :
    SilentFrom number openedOn (Text.consHead c raws) := by
  obtain ⟨first, others, kept, after, rfl, hstrip, hblank, hne, hread⟩ := h
  refine ⟨c :: first, others, kept, after, rfl, ?_, hblank, hne, hread⟩
  rw [stripComments_inBlock (hclose first others rfl), hstrip]

/-- A text without a closing mark is silent in a comment that is closed behind it. -/
theorem silentFrom_of_not_closing {text : List Char} (h : ¬ ['*', '/'] <:+: text)
    (number openedOn : Nat) :
    SilentFrom number openedOn (lines (text ++ [' ', '*', '/'])) := by
  -- induction along the lines of the text; the comment closes on the last of them
  fun_induction lines text generalizing number with
  | case1 =>
    exact ⟨[' ', '*', '/'], [], [' '], .code, rfl, rfl, List.all_eq_true.1 rfl,
      Region.code_ne_literal, rfl⟩
  | case2 rest ih =>
    have hrest : ¬ ['*', '/'] <:+: rest := fun hmark =>
      h (hmark.trans ((List.suffix_append ['\r', '\n'] rest).isInfix))
    exact (ih hrest (number + 1)).behind
  | case3 rest ih =>
    have hrest : ¬ ['*', '/'] <:+: rest := fun hmark =>
      h (hmark.trans ((List.suffix_cons '\n' rest).isInfix))
    exact (ih hrest (number + 1)).behind
  | case4 c rest hcr hlf ih =>
    have hrest : ¬ ['*', '/'] <:+: rest := fun hmark =>
      h (hmark.trans ((List.suffix_cons c rest).isInfix))
    have hhead : c = '\r' → (rest ++ [' ', '*', '/']).head? ≠ some '\n' := by
      rintro rfl hd
      cases rest with
      | nil => cases hd
      | cons d tail =>
        obtain rfl := Option.some.inj hd
        exact hcr tail rfl rfl
    rw [List.cons_append, lines_cons hlf hhead]
    refine (ih hrest number).consHead fun first others hlines => ?_
    -- a mark that closes on the first line would stand in the text
    rintro ⟨rfl, hslash⟩
    have hd := head?_of_lines_eq_cons hlines hslash
    cases rest with
    | nil => cases hd
    | cons d tail =>
      obtain rfl := Option.some.inj hd
      exact h (List.prefix_append ['*', '/'] tail).isInfix

/-- A note without a closing mark is silent. -/
theorem silent_of_not_closing {note : String} (h : ¬ ['*', '/'] <:+: note.toList) :
    Silent note :=
  silentFrom_of_not_closing h 1 1

/-! ## The whole header -/

/-- An annotated header says the flags and the settings exactly when all its notes are
silent. -/
theorem says_annotatedHeader_iff {valid : ValidConfiguration} {registry : Registry}
    (h : valid.configuration.Writable) :
    Says (lines (valid.annotatedHeader registry).toList) valid.configuration.directives ↔
      ∀ entry ∈ valid.configuration.entries, Silent (entry.note registry) := by
  have hnotice : Says (lines ValidConfiguration.notice.toList) [] := fun _ => ⟨[], rfl, rfl⟩
  have htext : (valid.annotatedHeader registry).toList =
      ValidConfiguration.notice.toList ++
        ((valid.configuration.entries.flatMap fun entry =>
          (entry.annotatedLine registry).toList) ++
          valid.configuration.settingLines.toList) := by
    simp [ValidConfiguration.annotatedHeader, List.flatMap_map]
  have hline : ∀ entry ∈ valid.configuration.entries,
      EndsLine (entry.annotatedLine registry).toList := by
    intro entry _
    rw [entry.toList_annotatedLine]
    exact endsLine_concat _
  -- the notice says nothing and the settings are those of the plain header, which leaves the
  -- lines of the flags
  rw [htext, lines_append (by decide), lines_flatMap_append hline, hnotice.append_iff,
    Configuration.directives, Configuration.assertions, List.map_map,
    says_flatMap_append_iff
      (fun entry hmem => (endsInCode_annotatedLine (h.flag_valid entry hmem)).1)
      (fun entry hmem => (endsInCode_annotatedLine (h.flag_valid entry hmem)).2)
      (says_settingLines h)]
  exact forall₂_congr fun entry hmem => says_annotatedLine_iff (h.flag_valid entry hmem)

/-- The annotated header of a generated configuration is read and says what the plain one does,
exactly when all its notes are silent. -/
theorem Generated.annotatedHeader_iff {registry : Registry} {layerSet : LayerSet}
    {valid : ValidConfiguration} (h : Generated registry layerSet valid) :
    (∃ plain annotated, parse valid.header = .ok plain ∧
      parse (valid.annotatedHeader registry) = .ok annotated ∧
      annotated.lines.map (·.directive) = plain.lines.map (·.directive)) ↔
      ∀ entry ∈ valid.configuration.entries, Silent (entry.note registry) := by
  have hplain := says_header h.writable
  rw [← says_annotatedHeader_iff h.writable, ← exists_parse_iff]
  constructor
  · rintro ⟨plain, annotated, hparse, hannotated, heq⟩
    have hplain' := exists_parse_iff.1 ⟨plain, hparse, rfl⟩
    exact ⟨annotated, hannotated, heq.trans (hplain'.unique hplain)⟩
  · rintro ⟨annotated, hannotated, heq⟩
    obtain ⟨plain, hparse, hdirectives⟩ := exists_parse_iff.2 hplain
    exact ⟨plain, annotated, hparse, hannotated, heq.trans hdirectives.symm⟩

/-- The notes of the small stack are silent. -/
theorem annotatedHeader_quiet :
    ∃ plain annotated, parse quietConfiguration.header = .ok plain ∧
      parse (quietConfiguration.annotatedHeader quietRegistry) = .ok annotated ∧
      annotated.lines.map (·.directive) = plain.lines.map (·.directive) := by
  have hentries : quietConfiguration.configuration.entries =
      [⟨"AUDIT", .enabled, "site", []⟩, ⟨"LOG", .enabled, "default", []⟩] := rfl
  have hnotes : ∀ entry ∈ quietConfiguration.configuration.entries,
      '*' ∉ (entry.note quietRegistry).toList := by
    rw [hentries]
    decide
  refine generated_quiet.annotatedHeader_iff.2 fun entry hentry => ?_
  refine silent_of_not_closing fun hclose => hnotes entry hentry ?_
  exact hclose.subset List.mem_cons_self

/-! ## A description with a closing mark -/

/-- A catalog of one flag, whose description holds a pattern of file names. -/
def globbedCatalog : Catalog :=
  { flags :=
      [{ name := "GEN", default := .enabled, description := "Build src/*/gen" }] }

/-- The registry of the catalog. -/
def globbedRegistry : Registry :=
  { definitions := globbedCatalog.flags.map CatalogFlag.toDefinition
    names_nodup := by decide
    targets_mem := by decide }

/-- No layers. -/
def noLayers : LayerSet :=
  { layers := [], identifiers_nodup := List.nodup_nil, ascending := .nil }

/-- The defaults of the registry. -/
def globbedConfiguration : ValidConfiguration :=
  { configuration := .defaults globbedRegistry
    passed := ⟨globbedRegistry, rfl⟩ }

/-- The pattern closes the comment, and the rest of the line is read as the value of a constant
where the plain header asserts the flag. -/
theorem globbed_annotation_differs :
    Generated globbedRegistry noLayers globbedConfiguration ∧
    globbedConfiguration.annotatedHeader globbedRegistry =
      ValidConfiguration.notice ++
        "#define GEN                    /* Build src/*/gen [default] */\n" ∧
    (∃ plain annotated, parse globbedConfiguration.header = .ok plain ∧
      parse (globbedConfiguration.annotatedHeader globbedRegistry) = .ok annotated ∧
      plain.lines.map (·.directive) = [.assert ⟨"GEN", .enabled⟩] ∧
      annotated.lines.map (·.directive) = [.set ⟨"GEN", "gen [default] */"⟩]) ∧
    ¬ ∃ plain annotated, parse globbedConfiguration.header = .ok plain ∧
      parse (globbedConfiguration.annotatedHeader globbedRegistry) = .ok annotated ∧
      annotated.lines.map (·.directive) = plain.lines.map (·.directive) := by
  have hgenerated : Generated globbedRegistry noLayers globbedConfiguration :=
    { catalogued := ⟨globbedCatalog, rfl⟩
      ofText := List.forall_mem_nil _
      resolved := ⟨_, rfl, rfl⟩ }
  refine ⟨hgenerated, rfl, ⟨_, _, rfl, rfl, rfl, rfl⟩, ?_⟩
  rintro ⟨plain, annotated, hplain, hannotated, hsame⟩
  cases hplain
  cases hannotated
  cases hsame

end LayeredFlags
