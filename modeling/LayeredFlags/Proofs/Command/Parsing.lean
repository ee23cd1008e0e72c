import LayeredFlags.Proofs.Command.Agreement
import LayeredFlags.Proofs.Json.Writing
import LayeredFlags.Proofs.JsonForm.Contents
import LayeredFlags.Proofs.Text.Encoding
/-!
# Checking a Layer File and Loading It

A layer file is checked by a command of its own, and it is read again when the layer is loaded.
Both read the bytes of the file, decode them and read the text, each in its own way. They accept
the same files and take the same assertions and settings from them. The errors are the same as
well, but for bytes that are not UTF-8: loading names the line on which these stop being a text,
and the command calls the file unreadable and names no line.

## Main definitions

* `LoadedLayer.StopsBefore`: loading ends before the layer is built;
* `Command.Accepts`: what the command shows of a document, and what is loaded of the same file;
* `Command.SameVerdict`: the command and loading come to the same verdict on a file.

## Main results

* `Command.parsed_of_text`, `LoadedLayer.load_of_text`: both read a text in the same way;
* `Command.sameVerdict_iff_isText`: the verdict is the same on every file that cannot be read or
  whose bytes are UTF-8, and on no other file;
* `Command.refusal_of_notUtf8`: what both say of the bytes of any other file.
-/

namespace LayeredFlags

open JsonCodec

/-- Loading the layer of an entry ends with an error before the layer is built. What can go wrong
afterwards is about the flags and the identifier of the layer. -/
def LoadedLayer.StopsBefore (read : Reader) (entry : LayerEntry) (error : StackError) : Prop :=
  load read entry = .error error ∧ ∀ fault, error ≠ .flag fault

namespace Command

/-- The command shows what a document says, and loading builds the layer from it. -/
structure Accepts (read : Reader) (entry : LayerEntry) (document : LayerText.Document) :
    Prop where
  /-- The command shows one JSON value, with all assertions and all settings, in order. -/
  shows : ∃ text json,
    (∀ now, answer read now (.parse entry.path) = .print ⟨0, text ++ "\n", ""⟩) ∧
    Json.Denotes text json ∧
    json.at? "assertions" (Json.items? Assertion.ofJson?) = some document.assertions ∧
    json.at? "settings" (Json.items? Setting.ofJson?) = some document.settings
  /-- The layer is built from these assertions and these settings. -/
  loads : ∃ bytes, read entry.path = .ok bytes ∧
    LoadedLayer.load read entry =
      (liftFlag (Layer.build entry.id entry.priority document.assertions document.settings)).map
        fun layer => ⟨layer, LoadedLayer.sourceOf layer entry.path bytes⟩

/-- The verdict of the command on a file is that of loading a layer from it. -/
structure SameVerdict (read : Reader) (entry : LayerEntry) : Prop where
  /-- The command refuses the file with the error that loading stops with before the layer is
  built, and only with that one. -/
  same_error : ∀ error, parsed read entry.path = .error error ↔
    LoadedLayer.StopsBefore read entry error
  /-- It shows this error, and nothing else. -/
  shows_error : ∀ error, parsed read entry.path = .error error →
    ∀ now, answer read now (.parse entry.path) = .print ⟨1, "", s!"Error: {error.message}\n"⟩
  /-- The error of bytes that are not UTF-8 names the line on which they stop being a text. -/
  not_utf8 : ∀ bytes text, read entry.path = .ok bytes → Utf8.decode? bytes = none →
    Utf8.LongestText bytes text →
    parsed read entry.path =
      .error (.layerText entry.path ⟨text.count 0x0A + 1, .notUtf8⟩)
  /-- A file that the command accepts is shown and loaded alike. -/
  accepts : ∀ document, parsed read entry.path = .ok document → Accepts read entry document

/-- What can be said of every file, whether or not its bytes are UTF-8. -/
structure Verdicts (read : Reader) (entry : LayerEntry) : Prop where
  /-- The command refuses exactly the files that loading stops at before the layer is built. -/
  refuses_iff : (∃ error, parsed read entry.path = .error error) ↔
    ∃ error, LoadedLayer.StopsBefore read entry error
  /-- The command shows its error, and nothing else. -/
  shows_error : ∀ error, parsed read entry.path = .error error →
    ∀ now, answer read now (.parse entry.path) = .print ⟨1, "", s!"Error: {error.message}\n"⟩
  /-- A file that the command accepts is shown and loaded alike. -/
  accepts : ∀ document, parsed read entry.path = .ok document → Accepts read entry document
  /-- Of bytes that are not UTF-8 loading names the line on which they stop being a text. The
  command says that it cannot read the file. -/
  not_utf8 : ∀ bytes, read entry.path = .ok bytes → Utf8.decode? bytes = none →
    parsed read entry.path = .error (.file entry.path .notUtf8) ∧
    ∃ text, Utf8.LongestText bytes text ∧
      LoadedLayer.StopsBefore read entry
        (.layerText entry.path ⟨text.count 0x0A + 1, .notUtf8⟩)

end Command

/-! ## Reading a file -/

section Reading

variable {read : Reader} {path : String} {entry : LayerEntry} {fault : FileFault}
  {bytes : List UInt8} {text : String}

theorem Command.parsed_of_error (h : read path = .error fault) :
    parsed read path = .error (.file path fault) := by
  rw [parsed, readText, h]
  rfl

theorem Command.parsed_of_text (h : read path = .ok bytes)
    (htext : Utf8.decode? bytes = some text) :
    parsed read path = (LayerText.parse text).mapError (.layerText path) := by
  simp only [parsed, readText, h, htext, mapError_ok, ok_bind]

theorem Command.parsed_of_notUtf8 (h : read path = .ok bytes) (hnone : Utf8.decode? bytes = none) :
    parsed read path = .error (.file path .notUtf8) := by
  simp only [parsed, readText, h, hnone, mapError_error, error_bind]

theorem LoadedLayer.load_of_error (h : read entry.path = .error fault) :
    load read entry = .error (.file entry.path fault) := by
  rw [load, h]
  rfl

/-- After the text has been read as the command reads it, the layer is built. -/
theorem LoadedLayer.load_of_text (h : read entry.path = .ok bytes)
    (htext : Utf8.decode? bytes = some text) :
    load read entry = Command.parsed read entry.path >>= fun document =>
      (liftFlag (document.toLayer entry.id entry.priority)).map fun layer =>
        ⟨layer, sourceOf layer entry.path bytes⟩ := by
  have hdocument : readDocument bytes = LayerText.parse text := by rw [readDocument, htext]
  simp only [load, h, mapError_ok, ok_bind, hdocument, Command.parsed_of_text h htext]
  rfl

theorem LoadedLayer.load_of_notUtf8 (h : read entry.path = .ok bytes)
    (hnone : Utf8.decode? bytes = none) :
    load read entry = .error (.layerText entry.path ⟨Utf8.stopLine bytes, .notUtf8⟩) := by
  have hdocument : readDocument bytes = .error ⟨Utf8.stopLine bytes, .notUtf8⟩ := by
    rw [readDocument, hnone]
  simp only [load, h, mapError_ok, ok_bind, hdocument, mapError_error, error_bind]

/-- No file is refused for its flags. -/
theorem Command.parsed_ne_flag {error : FlagError} : parsed read path ≠ .error (.flag error) := by
  intro h
  rcases bind_eq_error_iff.1 h with h | ⟨text, -, h⟩
  · obtain ⟨fault, -, heq⟩ := mapError_eq_error_iff.1 h
    cases heq
  · obtain ⟨error, -, heq⟩ := mapError_eq_error_iff.1 h
    cases heq

/-- Building the layer fails for its flags only. -/
theorem LoadedLayer.stopsBefore_iff_of_text (h : read entry.path = .ok bytes)
    (htext : Utf8.decode? bytes = some text) (error : StackError) :
    StopsBefore read entry error ↔ Command.parsed read entry.path = .error error := by
  rw [StopsBefore, load_of_text h htext]
  constructor
  · rintro ⟨hload, hflag⟩
    rcases bind_eq_error_iff.1 hload with hparsed | ⟨document, -, hbuild⟩
    · exact hparsed
    · obtain ⟨inner, -, rfl⟩ := mapError_eq_error_iff.1 (map_eq_error_iff.1 hbuild)
      exact absurd rfl (hflag inner)
  · intro hparsed
    refine ⟨bind_eq_error_iff.2 (.inl hparsed), fun fault hfault => ?_⟩
    rw [hfault] at hparsed
    exact Command.parsed_ne_flag hparsed

end Reading

namespace Command

variable {read : Reader} {entry : LayerEntry}

/-! ## What the command shows -/

theorem failsOnly_parsed (read : Reader) (path : String) :
    FailsOnly StackError.AboutInput (parsed read path) :=
  (failsOnly_mapError (.file path) (fun _ => rfl) _).bind fun _ =>
    failsOnly_mapError (.layerText path) (fun _ => rfl) _

theorem answer_parse_of_error {error : StackError}
    (h : parsed read entry.path = .error error) (now : String) :
    answer read now (.parse entry.path) = .print ⟨1, "", s!"Error: {error.message}\n"⟩ := by
  rw [answer, h, ← Outcome.failure_of_aboutInput (failsOnly_parsed _ _ error h)]
  rfl

theorem answer_parse_of_ok {document : LayerText.Document}
    (h : parsed read entry.path = .ok document) (now : String) :
    answer read now (.parse entry.path) =
      .print ⟨0, (documentJson entry.path document).pretty ++ "\n", ""⟩ := by
  rw [answer, h]
  rfl

theorem accepts_of_parsed {document : LayerText.Document}
    (h : parsed read entry.path = .ok document) : Accepts read entry document := by
  have hassertions := Json.items?_encode Assertion.ofJson?_encode document.assertions
  have hsettings := Json.items?_encode Setting.ofJson?_encode document.settings
  refine
    { shows := ⟨_, documentJson entry.path document, answer_parse_of_ok h,
        (Json.isText_pretty _).denotes, by simpa [documentJson, Json.at?] using hassertions,
        by simpa [documentJson, Json.at?] using hsettings⟩
      loads := ?_ }
  -- only a text is accepted
  cases hread : read entry.path with
  | error fault =>
    rw [parsed_of_error hread] at h
    cases h
  | ok bytes =>
    cases htext : Utf8.decode? bytes with
    | none =>
      rw [parsed_of_notUtf8 hread htext] at h
      cases h
    | some text => exact ⟨bytes, rfl, by rw [LoadedLayer.load_of_text hread htext, h]; rfl⟩

/-! ## Comparing the verdicts -/

/-- On a file that is no text loading stops too, with an error of its own. -/
theorem refusal_of_notUtf8 {bytes : List UInt8} (h : read entry.path = .ok bytes)
    (hnone : Utf8.decode? bytes = none) :
    parsed read entry.path = .error (.file entry.path .notUtf8) ∧
    ∃ text, Utf8.LongestText bytes text ∧
      LoadedLayer.StopsBefore read entry
        (.layerText entry.path ⟨text.count 0x0A + 1, .notUtf8⟩) := by
  obtain ⟨text, hlongest, hline⟩ := Utf8.exists_longestText bytes
  refine ⟨parsed_of_notUtf8 h hnone, text, hlongest, ?_, fun _ => StackError.noConfusion⟩
  rw [LoadedLayer.load_of_notUtf8 h hnone, hline]

theorem same_error_of_isText
    (h : ∀ bytes, read entry.path = .ok bytes → ∃ text, Utf8.decode? bytes = some text)
    (error : StackError) :
    parsed read entry.path = .error error ↔
      LoadedLayer.StopsBefore read entry error := by
  cases hread : read entry.path with
  | error fault =>
    simp only [LoadedLayer.StopsBefore, parsed_of_error hread, LoadedLayer.load_of_error hread,
      Except.error.injEq]
    refine ⟨fun heq => ⟨heq, fun fault hflag => ?_⟩, fun h => h.1⟩
    rw [hflag] at heq
    cases heq
  | ok bytes =>
    obtain ⟨text, htext⟩ := h bytes hread
    exact (LoadedLayer.stopsBefore_iff_of_text hread htext error).symm

theorem sameVerdict_iff_isText :
    SameVerdict read entry ↔
      ∀ bytes, read entry.path = .ok bytes → ∃ text, Utf8.decode? bytes = some text := by
  constructor
  · intro hsame bytes hread
    by_contra hnone
    rw [← Option.isSome_iff_exists, Option.not_isSome_iff_eq_none] at hnone
    -- the two errors differ
    obtain ⟨hparsed, text, hlongest, -⟩ := refusal_of_notUtf8 hread hnone
    have herror := hsame.not_utf8 bytes text hread hnone hlongest
    rw [hparsed] at herror
    cases herror
  · intro h
    refine
      { same_error := same_error_of_isText h
        shows_error := fun error herror => answer_parse_of_error herror
        not_utf8 := fun bytes text hread hnone _ => ?_
        accepts := fun document => accepts_of_parsed }
    obtain ⟨decoded, hdecoded⟩ := h bytes hread
    cases hnone.symm.trans hdecoded

theorem verdicts (read : Reader) (entry : LayerEntry) : Verdicts read entry := by
  refine
    { refuses_iff := ?_
      shows_error := fun error herror => answer_parse_of_error herror
      accepts := fun document => accepts_of_parsed
      not_utf8 := fun bytes => refusal_of_notUtf8 }
  by_cases h : ∀ bytes, read entry.path = .ok bytes → ∃ text, Utf8.decode? bytes = some text
  · exact exists_congr (same_error_of_isText h)
  · push Not at h
    obtain ⟨bytes, hread, hnone⟩ := h
    obtain ⟨hparsed, text, -, hstops⟩ :=
      refusal_of_notUtf8 hread (Option.eq_none_iff_forall_ne_some.2 hnone)
    exact iff_of_true ⟨_, hparsed⟩ ⟨_, hstops⟩

/-- Checking a layer file and loading it refuse the same files and accept the same documents, and
the verdicts are the same in every respect exactly if the file cannot be read or is a text. -/
theorem verdicts_and_sameVerdict_iff (read : Reader) (entry : LayerEntry) :
    Verdicts read entry ∧
      (SameVerdict read entry ↔
        ∀ bytes, read entry.path = .ok bytes → ∃ text, Utf8.decode? bytes = some text) :=
  ⟨verdicts read entry, sameVerdict_iff_isText⟩

/-- The second line of this file is no text, which loading says and the command does not. -/
theorem verdicts_differ_invalidByte :
    let bytes := "ENABLE A\n".toUTF8.toList ++ [0xFF, 0x0A]
    let tree := FileTree.empty.addFile "a.h" bytes
    let entry : LayerEntry := ⟨"a", 0, "a.h"⟩
    parsed tree.read entry.path = .error (.file "a.h" .notUtf8) ∧
      LoadedLayer.load tree.read entry = .error (.layerText "a.h" ⟨2, .notUtf8⟩) ∧
      ¬ SameVerdict tree.read entry := by
  intro bytes tree entry
  have hread : tree.read entry.path = .ok bytes := by decide +kernel
  have hnone : Utf8.decode? bytes = none := by decide +kernel
  have hline : Utf8.stopLine bytes = 2 := by decide +kernel
  refine ⟨parsed_of_notUtf8 hread hnone, ?_, ?_⟩
  · rw [LoadedLayer.load_of_notUtf8 hread hnone, hline]
  rw [sameVerdict_iff_isText]
  intro h
  obtain ⟨text, htext⟩ := h bytes hread
  cases hnone.symm.trans htext

end Command

end LayeredFlags
