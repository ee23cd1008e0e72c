import LayeredFlags.Main
import LayeredFlags.Proofs.Outcome
/-!
# Snapshots

The program reads files first and answers afterwards, so that it needs to know which files a
command reads. It asks twice: the arguments name some files, and one of these may be a manifest
that names the others. What is answered from the files that were read is what is answered from
all files.

## Main definitions

* `Snapshot.ofReader`: a snapshot of some files as they are read.

## Main results

* `Command.answer_congr`: the answer of a command depends on the files that it reads only;
* `Command.answer_snapshot`: asking twice is enough.
-/

namespace LayeredFlags

variable {read other : Reader}

/-! ## Loading -/

theorem readText_congr {path : String} (h : other path = read path) :
    readText other path = readText read path := by
  rw [readText, readText, h]

theorem Manifest.load_congr {path : String} (h : other path = read path) :
    Manifest.load other path = Manifest.load read path := by
  rw [load, load, readText_congr h]

theorem Catalog.load_congr {path : String} (h : other path = read path) :
    Catalog.load other path = Catalog.load read path := by
  rw [load, load, readText_congr h]

theorem LoadedLayer.load_congr {entry : LayerEntry} (h : other entry.path = read entry.path) :
    LoadedLayer.load other entry = LoadedLayer.load read entry := by
  rw [load, load, h]

/-- A stack is loaded from its catalog and the files of its layers. -/
theorem Stack.ofParts_congr {catalog : String} {entries : List LayerEntry}
    (h : ∀ path ∈ catalog :: entries.map (·.path), other path = read path) :
    Stack.ofParts other catalog entries = Stack.ofParts read catalog entries := by
  rw [List.forall_mem_cons, List.forall_mem_map] at h
  obtain ⟨hcatalog, hlayers⟩ := h
  have hloaded : entries.mapM (LoadedLayer.load other) = entries.mapM (LoadedLayer.load read) :=
    mapM_congr fun entry hentry => LoadedLayer.load_congr (hlayers entry hentry)
  rw [ofParts, ofParts, Catalog.load_congr hcatalog, hloaded]

/-- A manifest is a file of the stack that it names. -/
theorem StackChoice.mem_files_manifest (read : Reader) (path : String) :
    path ∈ (manifest path).files read := by
  unfold files
  dsimp only
  split
  · exact List.mem_cons_self
  · exact List.mem_singleton_self path

/-- A stack is loaded from its files. -/
theorem StackChoice.load_congr {choice : StackChoice}
    (h : ∀ path ∈ choice.files read, other path = read path) :
    choice.load other = choice.load read := by
  cases choice with
  | manifest path =>
    have hmanifest : Manifest.load other path = Manifest.load read path :=
      Manifest.load_congr (h path (mem_files_manifest read path))
    rw [load, load, Stack.load, Stack.load, hmanifest]
    cases hload : Manifest.load read path with
    | error error => rfl
    | ok content =>
      rw [files, hload, List.forall_mem_cons] at h
      exact Stack.ofParts_congr h.2
  | parts catalog layers => exact Stack.ofParts_congr h

/-! ## Answering -/

theorem Command.resolved_congr {choice : StackChoice}
    (h : ∀ path ∈ choice.files read, other path = read path) :
    resolved other choice = resolved read choice := by
  rw [resolved, resolved, StackChoice.load_congr h]

/-- The answer of a command depends on the files that it reads only. -/
theorem Command.answer_congr {command : Command}
    (h : ∀ path ∈ command.files read, other path = read path) (now : String) :
    command.answer other now = command.answer read now := by
  cases command with
  | resolve choice format annotate output =>
    rw [answer, answer, rendering, rendering, resolved_congr h]
  | validate choice json => rw [answer, answer, resolved_congr h]
  | explain choice human => rw [answer, answer, resolved_congr h]
  | parse path =>
    rw [answer, answer, parsed, parsed, readText_congr (h path (List.mem_singleton_self path))]

/-! ## Taking a snapshot -/

/-- A snapshot of some files as they are read. -/
def Snapshot.ofReader (read : Reader) (paths : List String) : Snapshot :=
  paths.map fun path => (path, read path)

/-- A file of a snapshot is read from it as it was read. -/
theorem Snapshot.reader_ofReader {paths : List String} {path : String} (h : path ∈ paths) :
    (ofReader read paths).reader path = read path := by
  have hlookup : (ofReader read paths).lookup path = some (read path) := by
    induction paths with
    | nil => cases h
    | cons first rest ih =>
      rw [ofReader, List.map_cons, List.lookup_cons]
      by_cases heq : path = first
      · simp [heq]
      · have hrest : path ∈ rest := (List.mem_cons.1 h).resolve_left heq
        rw [beq_false_of_ne heq]
        exact ih hrest
  rw [reader, hlookup, Option.getD_some]

/-- The files that are named when nothing was read tell all others that are to be read. -/
theorem StackChoice.files_congr {choice : StackChoice}
    (h : ∀ path ∈ choice.files (Snapshot.reader []), other path = read path) :
    choice.files other = choice.files read := by
  cases choice with
  | manifest path =>
    have hmanifest : Manifest.load other path = Manifest.load read path :=
      Manifest.load_congr (h path (mem_files_manifest _ path))
    rw [files, files, hmanifest]
  | parts catalog layers => rfl

theorem Command.files_congr {command : Command}
    (h : ∀ path ∈ command.files (Snapshot.reader []), other path = read path) :
    command.files other = command.files read := by
  cases command with
  | resolve choice format annotate output => exact StackChoice.files_congr h
  | validate choice json => exact StackChoice.files_congr h
  | explain choice human => exact StackChoice.files_congr h
  | parse path => rfl

/-- What is answered from a snapshot is what is answered from the files: first those are read
that the arguments name, and then those that these name. -/
theorem Command.answer_snapshot (read : Reader) (command : Command) (now : String) :
    let named := Snapshot.ofReader read (command.files (Snapshot.reader []))
    command.answer (Snapshot.ofReader read (command.files named.reader)).reader now =
      command.answer read now := by
  intro named
  -- the first snapshot has the manifest, if there is one, and so it tells the files
  have hfiles : command.files named.reader = command.files read :=
    files_congr fun _ => Snapshot.reader_ofReader
  rw [hfiles]
  exact answer_congr (fun _ => Snapshot.reader_ofReader) now

end LayeredFlags
