import LayeredFlags.Command.Usage
import LayeredFlags.Text.Instant
import Std.Time.DateTime.Timestamp
/-!
# The Program

Reads the files that a command needs, runs the command on them, and shows what it answers.
-/

namespace LayeredFlags

/-- The fault that a number of the system stands for, with the words of the system. -/
def FileFault.ofCode (code : UInt32) (words : String) : FileFault :=
  -- Some calls of the system give the number negated.
  let number := min code (0 - code)
  if number = 20 then .notDirectory
  else if number = 21 then .isDirectory
  else if number = 22 then .nulInPath
  else if number = 36 then .nameTooLong
  else .other s!"{words} (os error {number})"

/-- The fault that an error of the system stands for. -/
def FileFault.ofSystem : IO.Error → FileFault
  | .noFileOrDirectory .. => .notFound
  | .inappropriateType _ code words | .invalidArgument _ code words
  | .permissionDenied _ code words | .resourceExhausted _ code words => .ofCode code words
  | error => .other error.toString

/-- The content of files, by their paths. -/
abbrev Snapshot := List (String × Except FileFault (List UInt8))

/-- Read from a snapshot. A file that is not in it is not found. -/
def Snapshot.reader (snapshot : Snapshot) : Reader := fun path =>
  (snapshot.lookup path).getD (.error .notFound)

/-- Read a file. -/
def readFile (path : String) : IO (Except FileFault (List UInt8)) := do
  try return .ok (← IO.FS.readBinFile path).toList
  catch error => return .error (.ofSystem error)

/-- Read files. -/
def Snapshot.take (paths : List String) : IO Snapshot :=
  paths.mapM fun path => return (path, ← readFile path)

/-- Read the files that a command needs: first those that its arguments name, then those that
these name. -/
def Snapshot.ofCommand (command : Command) : IO Snapshot := do
  let named ← take (command.files (reader []))
  take (command.files named.reader)

/-- The time. -/
def currentTime : IO Text.Instant := do
  let nanoseconds := (← Std.Time.Timestamp.now).toNanosecondsSinceUnixEpoch.val.toNat
  return ⟨nanoseconds / 1000000000, nanoseconds % 1000000000⟩

/-- Show what a run shows, and return its exit code. -/
def Outcome.show (outcome : Outcome) : IO UInt32 := do
  IO.print outcome.stdout
  IO.eprint outcome.stderr
  return outcome.exitCode.toUInt32

/-- Save a text to a file. -/
def saveFile (path text : String) : IO Outcome := do
  try
    IO.FS.writeFile path text
    return .success ""
  catch error => return .failure (.file path (.ofSystem error))

/-- Run a command. -/
def runCommand (command : Command) : IO UInt32 := do
  let snapshot ← Snapshot.ofCommand command
  match command.answer snapshot.reader (← currentTime).toText with
  | .print outcome => outcome.show
  | .save path text => (← saveFile path text).show

end LayeredFlags

/-- Run the program with its arguments. -/
def main (arguments : List String) : IO UInt32 :=
  match LayeredFlags.Command.ofArguments arguments with
  | .error stop => stop.outcome.show
  | .ok command => LayeredFlags.runCommand command
