import LayeredFlags.Proofs.Command.Agreement
import LayeredFlags.Proofs.Files.Writing
import LayeredFlags.Proofs.Text.Encoding
/-!
# Saved Output

A configuration is either printed or saved to a file. All that can go wrong with the stack goes
wrong before the file is touched: a stack that is refused is refused in the same way, and no
file changes. Otherwise the file has what would have been printed. The file may be one that the
stack is loaded from, under this name or another one, since everything is read in the system as it
was before.

Of the file system nothing is assumed but that a write that succeeds replaces the content of one
file. If the write fails, the run fails as well, and nothing is said of the file.

## Main definitions

* `Command.Saving`: a run that saves its output, beside one that prints it.

## Main results

* `Command.saving_resolve`: so it is for every stack, every format and every file, in every lawful
  file system.
-/

namespace LayeredFlags

/-- The exit code of an error is not that of a success. -/
theorem StackError.exitCode_ne_zero (error : StackError) : error.exitCode ≠ 0 := by
  unfold exitCode
  split
  · exact Nat.succ_ne_zero 1
  · exact Nat.succ_ne_zero 0

/-- The text of a file that was replaced is the one that was written, under each of its names. -/
theorem FileSystem.Replaces.eq_of_readText {σ : Type} [FileSystem σ] [LawfulFileSystem σ]
    {system after : σ} {path name text content : String}
    (h : Replaces system path text.toUTF8.toList after)
    (hname : locate after name = locate after path)
    (hread : readText (read after) name = .ok content) : content = text := by
  cases hbytes : read after name with
  | error fault =>
    rw [readText, hbytes] at hread
    cases hread
  | ok bytes =>
    rw [readText, hbytes, h.eq_of_read hname hbytes] at hread
    dsimp only at hread
    rw [Utf8.decode?_toUTF8] at hread
    exact (Except.ok.inj hread).symm

namespace Command

open FileSystem (Replaces locate)

variable {σ : Type} [FileSystem σ]

/-- A run that is to save its output to the file of a path, beside what a run that prints it shows
in the same system. -/
structure Saving (system : σ) (path : String) (printed : Outcome) (ran : Outcome × σ) : Prop where
  /-- Nothing is printed. -/
  stdout_eq : ran.1.stdout = ""
  /-- What would not have been printed is not saved: the same is shown, and the system is as
  before. -/
  refused : printed.exitCode ≠ 0 → ran = (printed, system)
  /-- A run that succeeds saves to the file exactly what would have been printed, and nothing
  else changes. Under each name of the file, this text is what is read of it. -/
  saved : ran.1.exitCode = 0 → printed.exitCode = 0 ∧
    Replaces system path printed.stdout.toUTF8.toList ran.2 ∧
    ∀ name text, locate ran.2 name = locate ran.2 path →
      readText (FileSystem.read ran.2) name = .ok text → text = printed.stdout
  /-- A run fails for no other reason than that the file cannot be written. -/
  unwritable : ran.1.exitCode ≠ 0 → printed.exitCode = 0 → ∃ fault,
    FileSystem.write system path printed.stdout.toUTF8.toList = (.error fault, ran.2) ∧
      ran.1 = .failure (.file path fault)

section Run

variable {system after : σ} {now : String} {command : Command} {path text : String}

/-- An answer that is printed is all that a run does. -/
theorem run_of_print {outcome : Outcome}
    (h : command.answer (FileSystem.read system) now = .print outcome) :
    command.run system now = (outcome, system) := by
  rw [run, h]

/-- An answer that is to be saved is written to its file. -/
theorem run_of_write_eq_ok (h : command.answer (FileSystem.read system) now = .save path text)
    (hwrite : FileSystem.write system path text.toUTF8.toList = (.ok (), after)) :
    command.run system now = (.success "", after) := by
  simp only [run, h, hwrite]

/-- If that is not possible, the run fails. -/
theorem run_of_write_eq_error {fault : FileFault}
    (h : command.answer (FileSystem.read system) now = .save path text)
    (hwrite : FileSystem.write system path text.toUTF8.toList = (.error fault, after)) :
    command.run system now = (.failure (.file path fault), after) := by
  simp only [run, h, hwrite]

end Run

/-- A configuration is saved only if it would have been printed, and then as it would have
been. The runs may be at different times. -/
theorem saving_resolve [LawfulFileSystem σ] (system : σ) (now later : String)
    (choice : StackChoice) (format : OutputFormat) (annotate : Bool) (path : String) :
    Saving system path ((Command.resolve choice format annotate none).run system later).1
      ((Command.resolve choice format annotate (some path)).run system now) := by
  cases hrendering : rendering (FileSystem.read system) choice format annotate with
  | error error =>
    -- the stack is refused, with or without a file to save to, and nothing is written
    have hcode : (Outcome.failure error).exitCode ≠ 0 := error.exitCode_ne_zero
    rw [run_of_print (answer_resolve_of_error hrendering later none),
      run_of_print (answer_resolve_of_error hrendering now (some path))]
    exact
      { stdout_eq := rfl
        refused := fun _ => rfl
        saved := fun h => absurd h hcode
        unwritable := fun _ h => absurd h hcode }
  | ok text =>
    have hsave := answer_resolve_save hrendering now path
    rw [run_of_print (answer_resolve_print hrendering later)]
    rcases hwrite : FileSystem.write system path text.toUTF8.toList with ⟨_ | _, after⟩
    · -- the system may be left in any state
      next fault =>
      rw [run_of_write_eq_error hsave hwrite]
      exact
        { stdout_eq := rfl
          refused := fun h => absurd rfl h
          saved := fun h => absurd h (StackError.file path fault).exitCode_ne_zero
          unwritable := fun _ _ => ⟨fault, hwrite, rfl⟩ }
    · have hreplaces := LawfulFileSystem.replaces_of_write system after path _ hwrite
      rw [run_of_write_eq_ok hsave hwrite]
      exact
        { stdout_eq := rfl
          refused := fun h => absurd rfl h
          saved := fun _ => ⟨rfl, hreplaces, fun _ _ => hreplaces.eq_of_readText⟩
          unwritable := fun h => absurd rfl h }

/-- A stack of one layer, whose manifest is in the working directory and whose catalog is not. -/
def oneLayer : FileTree :=
  (((FileTree.empty ["home", "work"]).addFile "flagstack.toml"
      ("catalog = \"/etc/flags.toml\"\n" ++
        "[[layer]]\nid = \"common\"\npriority = 0\npath = \"common.h\"\n").toUTF8.toList).addFile
    "/etc/flags.toml" "[[flag]]\nname = \"A\"\ndefault = \"disabled\"\n".toUTF8.toList).addFile
    "common.h" "ENABLE A\n".toUTF8.toList

/-- The stack is saved over its own manifest, under another name of the manifest. -/
theorem saving_resolve_oneLayer :
    let path := "/home/./work/flagstack.toml"
    let ran :=
      (Command.resolve (.manifest "flagstack.toml") .header false (some path)).run oneLayer ""
    ran.1.exitCode = 0 ∧ Replaces oneLayer path "#define A\n".toUTF8.toList ran.2 ∧
      readText ran.2.read "flagstack.toml" = .ok "#define A\n" := by
  intro path ran
  have hran : ran.1.exitCode = 0 ∧ ran.2.locate "flagstack.toml" = ran.2.locate path ∧
      readText ran.2.read "flagstack.toml" = .ok "#define A\n" := by decide +kernel
  obtain ⟨hcode, hname, htext⟩ := hran
  have hsaving := saving_resolve oneLayer "" "" (.manifest "flagstack.toml") .header false path
  obtain ⟨-, hreplaces, hread⟩ := hsaving.saved hcode
  refine ⟨hcode, ?_, htext⟩
  -- what is read of the manifest is what would have been printed
  rw [hread "flagstack.toml" _ hname htext]
  exact hreplaces

end Command

end LayeredFlags
