import LayeredFlags.Proofs.Header.Writable
import LayeredFlags.Proofs.Header.WrittenLine
import LayeredFlags.Proofs.LayerText.Says
/-!
# Plain Headers

A plain header is read back as the flags and the settings of its configuration, one directive
for each, if the configuration can be written.

## Main definitions

* `Configuration.directives`: what the header of a configuration should say.

## Main results

* `Entry.lines_headerLine`, `ResolvedSetting.lines_headerLine`: one line for each flag and setting;
* `ValidConfiguration.lines_header`: the lines of the whole header;
* `says_flagLine`, `says_settingLine`: a line of a flag and a line of a setting;
* `says_settingLines`: all lines of settings;
* `says_header`: the whole header.
-/

namespace LayeredFlags

open Text LayerText

/-- What the header of a configuration should say: every flag and then every setting. -/
def Configuration.directives (configuration : Configuration) : List Directive :=
  configuration.assertions.map .assert ++
    (configuration.settings.map (·.said)).map .set

/-! ## Single lines -/

/-- The line of a flag as a written line. -/
theorem Entry.toList_headerLine (entry : Entry) :
    entry.headerLine.toList = writtenLine entry.state entry.flag.toList [] ++ ['\n'] := by
  simp [headerLine, writtenLine, writtenFront, toString]

/-- The line of a setting as a written line. -/
theorem ResolvedSetting.toList_headerLine (setting : ResolvedSetting) :
    setting.headerLine.toList =
      writtenLine .enabled setting.name.toList (' ' :: setting.value.toList) ++ ['\n'] := by
  simp [headerLine, writtenLine, writtenFront, toString, FlagState.directive]

/-- No line ends at the start of a written line. -/
theorem ne_lineEnd_of_mem_writtenFront {state : FlagState} {name : List Char}
    (hname : FlagName.isIdentifier name = true) {c : Char} (hc : c ∈ writtenFront state name) :
    c ≠ '\r' ∧ c ≠ '\n' := by
  have hkeyword : ∀ d ∈ state.directive.toList, d ≠ '\r' ∧ d ≠ '\n' := by
    have hall : state.directive.toList.all (fun d => d != '\r' && d != '\n') = true := by
      cases state <;> rfl
    simpa using List.all_eq_true.1 hall
  rcases List.mem_append.1 hc with hmem | hmem
  · exact hkeyword c hmem
  · rcases List.mem_cons.1 hmem with rfl | hmem
    · decide
    · have hblank := isBlank_of_isRest (FlagName.isRest_of_mem hname hmem)
      constructor <;> rintro rfl <;> cases hblank

/-- A flag has one line. -/
theorem Entry.lines_headerLine {entry : Entry} (h : FlagName.isValid entry.flag = true) :
    lines entry.headerLine.toList = [writtenLine entry.state entry.flag.toList []] := by
  have hfront : ∀ c ∈ writtenLine entry.state entry.flag.toList [], c ≠ '\r' ∧ c ≠ '\n' := by
    intro c hc
    rw [writtenLine, List.append_nil] at hc
    exact ne_lineEnd_of_mem_writtenFront h hc
  -- the line feed ends a line that holds no other line end
  rw [entry.toList_headerLine, lines_append_cons (fun hlf => (hfront _ hlf).2 rfl)
    (fun hcr => (hfront _ (List.mem_of_getLast? hcr)).1 rfl), lines_eq_nil_iff.2 rfl]

/-- The line of a flag says the state of the flag. -/
theorem says_flagLine {entry : Entry} (h : FlagName.isValid entry.flag = true) :
    Says (lines entry.headerLine.toList) [.assert ⟨entry.flag, entry.state⟩] := by
  have hname : FlagName.isIdentifier entry.flag.toList = true := h
  rw [Entry.lines_headerLine h]
  refine says_singleton fun number => ?_
  refine (readLine_writtenLine hname (by simp)).2 ⟨rfl, Region.code_ne_literal, _, ?_, rfl⟩
  simp [writtenDirective, stripComments, trim, trimStart, trimEnd]

/-- A value is read behind a space as it is. -/
theorem readLine_writtenLine_value {setting : Setting} (h : setting.Writable) (number : Nat) :
    readLine number .code (writtenLine .enabled setting.name.toList (' ' :: setting.value.toList)) =
      .ok ([⟨number, .set setting⟩], .code) := by
  have hinert : ∀ c ∈ [' '], isInert c = true := List.all_eq_true.1 rfl
  have hspace : ∀ c ∈ [' '], isBlank c = true := List.all_eq_true.1 rfl
  have hstrip : stripComments number .code (' ' :: setting.value.toList) =
      (' ' :: setting.value.toList, .code) := by
    have hfront := @stripComments_inert_append number [' '] hinert setting.value.toList
    rwa [h.value_kept number] at hfront
  have htrim : trim (' ' :: setting.value.toList) = setting.value.toList := by
    have hfront := trim_append_left hspace setting.value.toList
    rwa [trim_eq_self h.value_trimmed] at hfront
  have hblank : ∀ c, (' ' :: setting.value.toList).head? = some c → isBlank c = true := by
    rintro c ⟨⟩
    rfl
  refine (readLine_writtenLine h.name_valid hblank).2 ?_
  rw [hstrip]
  refine ⟨rfl, Region.code_ne_literal, .set setting, ?_, rfl⟩
  simp [writtenDirective, htrim, h.value_ne_nil]

/-- A setting that can be written has one line. -/
theorem ResolvedSetting.lines_headerLine {setting : ResolvedSetting}
    (h : setting.said.Writable) : lines setting.headerLine.toList =
      [writtenLine .enabled setting.name.toList (' ' :: setting.value.toList)] := by
  have hlf : '\n' ∉ writtenLine .enabled setting.name.toList (' ' :: setting.value.toList) := by
    intro hmem
    rcases List.mem_append.1 hmem with hfront | hvalue
    · exact (ne_lineEnd_of_mem_writtenFront h.name_valid hfront).2 rfl
    · rcases List.mem_cons.1 hvalue with heq | hvalue
      · cases heq
      · exact h.value_oneLine hvalue
  have hcr : (writtenLine .enabled setting.name.toList
      (' ' :: setting.value.toList)).getLast? ≠ some '\r' := by
    intro hlast
    -- the line ends as the value does, which does not end with a blank
    have hend : setting.said.value.toList.getLast? = some '\r' := by
      obtain ⟨start, last, heq⟩ := (List.eq_nil_or_concat _).resolve_left h.value_ne_nil
      rw [List.concat_eq_append] at heq
      have hline : writtenLine .enabled setting.name.toList (' ' :: setting.value.toList) =
          writtenLine .enabled setting.name.toList (' ' :: start) ++ [last] := by
        rw [show setting.value.toList = start ++ [last] from heq]
        simp [writtenLine]
      rw [hline, List.getLast?_concat] at hlast
      rw [heq, List.getLast?_concat, hlast]
    cases h.value_trimmed.2 '\r' hend
  rw [setting.toList_headerLine, lines_append_cons hlf hcr, lines_eq_nil_iff.2 rfl]

/-- The line of a setting says the setting. -/
theorem says_settingLine {setting : ResolvedSetting} (h : setting.said.Writable) :
    Says (lines setting.headerLine.toList) [.set setting.said] := by
  rw [ResolvedSetting.lines_headerLine h]
  exact says_singleton fun number => readLine_writtenLine_value h number

/-! ## The whole header -/

/-- The lines of the flags say the flags. -/
theorem says_flagLines {entries : List Entry}
    (h : ∀ entry ∈ entries, FlagName.isValid entry.flag = true) :
    Says (entries.flatMap fun entry => lines entry.headerLine.toList)
      (entries.map fun entry => .assert ⟨entry.flag, entry.state⟩) :=
  says_flatMap fun entry hmem => says_flagLine (h entry hmem)

/-- The lines of the settings are those of each of them, behind a blank line if there are
any. -/
theorem Configuration.lines_settingLines (configuration : Configuration) :
    lines configuration.settingLines.toList =
      (if configuration.settings = [] then [] else [[]]) ++
        configuration.settings.flatMap fun setting => lines setting.headerLine.toList := by
  by_cases hnone : configuration.settings = []
  · simp [settingLines, hnone, lines]
  · have htext : configuration.settingLines.toList =
        '\n' :: (configuration.settings.flatMap fun setting => setting.headerLine.toList) := by
      simp [settingLines, hnone, List.flatMap_map]
    have hends : ∀ setting ∈ configuration.settings, EndsLine setting.headerLine.toList := by
      intro setting _
      rw [setting.toList_headerLine]
      exact endsLine_concat _
    have hlines := lines_flatMap_append hends []
    rw [List.append_nil, lines_eq_nil_iff.2 rfl, List.append_nil] at hlines
    rw [htext, lines, hlines, if_neg hnone, List.singleton_append]

/-- The lines of a header are those of the flags and then those of the settings. -/
theorem ValidConfiguration.lines_header (valid : ValidConfiguration) :
    lines valid.header.toList =
      (valid.configuration.entries.flatMap fun entry => lines entry.headerLine.toList) ++
        lines valid.configuration.settingLines.toList := by
  have hends : ∀ entry ∈ valid.configuration.entries, EndsLine entry.headerLine.toList := by
    intro entry _
    rw [entry.toList_headerLine]
    exact endsLine_concat _
  have htext : valid.header.toList =
      (valid.configuration.entries.flatMap fun entry => entry.headerLine.toList) ++
        valid.configuration.settingLines.toList := by
    simp [header, List.flatMap_map]
  rw [htext, lines_flatMap_append hends]

/-- The lines of the settings say the settings. -/
theorem says_settingLines {configuration : Configuration} (h : configuration.Writable) :
    Says (lines configuration.settingLines.toList)
      ((configuration.settings.map (·.said)).map .set) := by
  have hsettings := says_flatMap fun setting hmem =>
    says_settingLine (h.setting_writable setting hmem)
  rw [configuration.lines_settingLines, List.map_map]
  by_cases hnone : configuration.settings = []
  · rw [if_pos hnone]
    exact hsettings
  · -- the blank line in front of the settings says nothing
    have hblank : Says [[]] [] := fun number => ⟨[], rfl, rfl⟩
    rw [if_neg hnone]
    exact hblank.append hsettings

/-- The header of a configuration that can be written says its flags and its settings. -/
theorem says_header {valid : ValidConfiguration} (h : valid.configuration.Writable) :
    Says (lines valid.header.toList) valid.configuration.directives := by
  rw [valid.lines_header, Configuration.directives, Configuration.assertions, List.map_map]
  exact (says_flagLines h.flag_valid).append (says_settingLines h)

end LayeredFlags
