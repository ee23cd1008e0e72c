import LayeredFlags.Proofs.Command.Parsing
import LayeredFlags.Proofs.LayerText.Faults
import LayeredFlags.Proofs.LayerText.Regions
import LayeredFlags.Proofs.Text.ByteLines
/-!
# Line Numbers of a Layer File

The bytes of a layer file are decoded before they are read line by line. If they are no text, the
line that is named is counted from the bytes that could be decoded; if they are, lines are counted
while they are read. Both counts agree with the lines that the bytes have when they are split at
their line feeds.

## Main definitions

* `LayerText.ReadsOn`: what comes of reading the line of a number;
* `LayerText.Blames`: the error is that of the line it names;
* `LoadedLayer.NamesLines`: all that is said of a line of some bytes is said with its number.

## Main results

* `LayerText.mem_runLines_iff`: a run says what its lines say, each from the region behind the lines
  above it;
* `LayerText.mem_parse_iff`, `LayerText.blames_of_parse`: the lines that directives and errors name;
* `LoadedLayer.namesLines_of_read`: the lines that loading names.
-/

namespace LayeredFlags

/-! ## Specification -/

namespace LayerText

/-- The line of that number, counted from one, is read with the outcome. It starts in the region
that the lines above it leave. -/
def ReadsOn (raws : List (List Char)) (number : Nat) (outcome : Except Error (List Line × Region)) :
    Prop :=
  ∃ above raw below, raws = above ++ raw :: below ∧ above.length + 1 = number ∧
    readLine number (regionBehind 1 .code above) raw = outcome

/-- The error is that of the line that it names. -/
inductive Blames (raws : List (List Char)) : Error → Prop where
  /-- The line cannot be read. -/
  | line {error : Error} (refused : ReadsOn raws error.line (.error error)) : Blames raws error
  /-- The line opens a comment that is still open behind all lines. -/
  | openComment {number : Nat} {here : List Line}
      (opened : ReadsOn raws number (.ok (here, .block number)))
      (stays : regionBehind 1 .code raws = .block number) : Blames raws ⟨number, .openComment⟩

end LayerText

/-- The numbers that loading the layer of an entry names are those of the lines of its bytes. -/
structure LoadedLayer.NamesLines (read : Reader) (entry : LayerEntry) (bytes : List UInt8) :
    Prop where
  /-- If the bytes are no text, they are refused for that, whatever else is wrong with them. -/
  not_isText : ¬ Utf8.IsText bytes → ∃ number,
    load read entry = .error (.layerText entry.path ⟨number, .notUtf8⟩)
  /-- They are refused so with the number of the first line whose bytes are no text by themselves,
  and never otherwise. -/
  notUtf8_iff : ∀ path number,
    load read entry = .error (.layerText path ⟨number, .notUtf8⟩) ↔
      path = entry.path ∧ Utf8.FirstBroken bytes number
  /-- If the bytes are a text, its directives and errors name the lines of the bytes. -/
  isText : Utf8.IsText bytes → ∃ raws, Utf8.LinesOf bytes raws ∧
    (∀ document, readDocument bytes = .ok document → ∀ line, line ∈ document.lines ↔
      ∃ here after, LayerText.ReadsOn raws line.number (.ok (here, after)) ∧ line ∈ here) ∧
    ∀ path error, load read entry = .error (.layerText path error) →
      error.fault ≠ .notUtf8 ∧ LayerText.Blames raws error

/-! ## Runs -/

namespace LayerText

variable {number : Nat} {region after : Region} {raws : List (List Char)} {said : List Line}
  {line : Line} {text : String} {error : Error}

/-- What a run says is what its lines say, each read from the region behind the lines above it. -/
theorem mem_runLines_iff (h : runLines number region raws = .ok (said, after)) :
    line ∈ said ↔ ∃ above raw below here next, raws = above ++ raw :: below ∧
      readLine (number + above.length) (regionBehind number region above) raw =
        .ok (here, next) ∧ line ∈ here := by
  -- induction on the lines: the others start in the region behind the first one
  induction raws generalizing number region said with
  | nil =>
    cases h
    simp
  | cons raw rest ih =>
    obtain ⟨first, next, there, hline, hrun, rfl⟩ := runLines_cons_eq_ok_iff.1 h
    rw [List.mem_append, ih hrun]
    constructor
    · rintro (hfirst | ⟨above, raw', below, here, last, rfl, hread, hmem⟩)
      · exact ⟨[], raw, rest, first, next, rfl, hline, hfirst⟩
      · rw [← add_length_cons _ raw, ← nextRegion_of_readLine hline] at hread
        exact ⟨raw :: above, raw', below, here, last, rfl, hread, hmem⟩
    · rintro ⟨above, raw', below, here, last, heq, hread, hmem⟩
      cases above with
      | nil =>
        obtain ⟨rfl, rfl⟩ := List.cons.inj heq
        rw [regionBehind, List.length_nil, Nat.add_zero, hline] at hread
        cases hread
        exact .inl hmem
      | cons first above =>
        obtain ⟨rfl, rfl⟩ := List.cons.inj heq
        rw [add_length_cons, regionBehind, nextRegion_of_readLine hline] at hread
        exact .inr ⟨above, raw', below, here, last, rfl, hread, hmem⟩

/-- A text says what its lines say, and each of them with its number. -/
theorem mem_parse_iff {document : Document} (h : parse text = .ok document) :
    line ∈ document.lines ↔ ∃ here after,
      ReadsOn (Text.lines text.toList) line.number (.ok (here, after)) ∧ line ∈ here := by
  obtain ⟨said, hread, rfl⟩ := map_eq_ok_iff.1 h
  obtain ⟨last, hrun, -⟩ := readLines_eq_ok_iff.1 hread
  rw [mem_runLines_iff hrun]
  constructor
  · rintro ⟨above, raw, below, here, after, hsplit, hraw, hmem⟩
    have hnumber : 1 + above.length = line.number := (number_of_mem_readLine hraw hmem).symm
    rw [hnumber] at hraw
    exact ⟨here, after, ⟨above, raw, below, hsplit, by omega, hraw⟩, hmem⟩
  · rintro ⟨here, after, ⟨above, raw, below, hsplit, hnumber, hraw⟩, hmem⟩
    rw [← hnumber, Nat.add_comm] at hraw
    exact ⟨above, raw, below, here, after, hsplit, hraw, hmem⟩

/-- The error of a text is that of the line that it names. -/
theorem blames_of_parse (h : parse text = .error error) :
    Blames (Text.lines text.toList) error := by
  rcases readLines_eq_error_iff.1 (map_eq_error_iff.1 h) with
    ⟨above, raw, below, hsplit, here, start, habove, hraw⟩ | ⟨here, openedOn, hrun, rfl⟩
  · have hnumber := (line_of_readLine_eq_error hraw).1
    rw [← hnumber, ← regionBehind_of_runLines habove] at hraw
    exact .line ⟨above, raw, below, hsplit, by omega, hraw⟩
  · -- the comment was opened on one of the lines, which is read
    obtain ⟨above, raw, below, hsplit, hopened, hopening, -⟩ := exists_opening_of_runLines hrun
    obtain ⟨before, start, there, habove, hraw, -⟩ := runLines_append_eq_ok_iff.1 hopening
    rw [runLines_singleton, ← hopened, ← regionBehind_of_runLines habove] at hraw
    exact .openComment ⟨above, raw, below, hsplit, by omega, hraw⟩ (regionBehind_of_runLines hrun)

/-- No text is refused for its encoding. -/
theorem ne_notUtf8_of_parse (h : parse text = .error error) : error.fault ≠ .notUtf8 := by
  rcases readLines_eq_error_iff.1 (map_eq_error_iff.1 h) with
    ⟨above, raw, below, -, here, start, -, hraw⟩ | ⟨here, openedOn, -, rfl⟩
  · exact (line_of_readLine_eq_error hraw).2.ne_notUtf8
  · exact Fault.noConfusion

end LayerText

/-! ## Loading -/

namespace LoadedLayer

variable {read : Reader} {entry : LayerEntry} {bytes : List UInt8}

theorem readDocument_toUTF8 (text : String) :
    readDocument text.toUTF8.toList = LayerText.parse text := by
  rw [readDocument, Utf8.decode?_toUTF8]

theorem readDocument_of_not_isText (h : ¬ Utf8.IsText bytes) :
    readDocument bytes = .error ⟨Utf8.stopLine bytes, .notUtf8⟩ := by
  rw [Utf8.isText_iff_decode?, ← Option.isSome_iff_exists, Option.not_isSome_iff_eq_none] at h
  rw [readDocument, h]

/-- A layer file is refused with the error of its bytes. -/
theorem load_eq_layerText_iff (h : read entry.path = .ok bytes) {path : String}
    {error : LayerText.Error} :
    load read entry = .error (.layerText path error) ↔
      path = entry.path ∧ readDocument bytes = .error error := by
  simp only [load, h, mapError_ok, ok_bind, bind_eq_error_iff, liftFlag, mapError_eq_error_iff,
    pure_eq_ok, reduceCtorEq, and_false, exists_false, or_false, StackError.layerText.injEq]
  constructor
  · rintro ⟨inner, hinner, rfl, rfl⟩
    exact ⟨rfl, hinner⟩
  · rintro ⟨rfl, herror⟩
    exact ⟨error, herror, rfl, rfl⟩

/-- The lines that loading names are those of the bytes. -/
theorem namesLines_of_read (h : read entry.path = .ok bytes) : NamesLines read entry bytes where
  not_isText hnone :=
    ⟨_, (load_eq_layerText_iff h).2 ⟨rfl, readDocument_of_not_isText hnone⟩⟩
  notUtf8_iff path number := by
    rw [load_eq_layerText_iff h, Utf8.firstBroken_iff]
    refine and_congr_right fun _ => ?_
    by_cases htext : Utf8.IsText bytes
    · obtain ⟨text, rfl⟩ := htext
      rw [readDocument_toUTF8]
      refine iff_of_false (fun herror => ?_) fun hbroken => hbroken.1 ⟨text, rfl⟩
      exact LayerText.ne_notUtf8_of_parse herror rfl
    · simp [readDocument_of_not_isText htext, htext]
  isText := by
    rintro ⟨text, rfl⟩
    refine ⟨Text.lines text.toList, Utf8.linesOf_toUTF8 text, fun document hdocument line => ?_,
      fun path error hload => ?_⟩
    · rw [readDocument_toUTF8] at hdocument
      exact LayerText.mem_parse_iff hdocument
    · obtain ⟨-, herror⟩ := (load_eq_layerText_iff h).1 hload
      rw [readDocument_toUTF8] at herror
      exact ⟨LayerText.ne_notUtf8_of_parse herror, LayerText.blames_of_parse herror⟩

/-- The second line of this file breaks off within a character. The faults above and below it are
not named. -/
theorem namesLines_cutCharacter :
    let bytes := "TURN A\nENABLE ".toUTF8.toList ++ 0xC3 :: 0x0A :: "ENABLE\n/*".toUTF8.toList
    let read : Reader := fun _ => .ok bytes
    let entry : LayerEntry := ⟨"a", 0, "a.h"⟩
    NamesLines read entry bytes ∧
      load read entry = .error (.layerText "a.h" ⟨2, .notUtf8⟩) ∧ Utf8.FirstBroken bytes 2 := by
  intro bytes read entry
  have hnames : NamesLines read entry bytes := namesLines_of_read rfl
  have hload : load read entry = .error (.layerText "a.h" ⟨2, .notUtf8⟩) := by
    rw [@load_of_notUtf8 _ entry bytes rfl (by decide +kernel),
      show Utf8.stopLine bytes = 2 by decide +kernel]
  exact ⟨hnames, hload, ((hnames.notUtf8_iff "a.h" 2).1 hload).2⟩

end LoadedLayer

end LayeredFlags
