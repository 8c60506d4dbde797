import Std.Time.Zoned
import StockQuery.Arguments

/-!
# The program

Reads the command line, the environment and the settings file, has the command carried out, and
writes what it left: log files, log lines on standard error, and its text on standard output.
-/

open StockQuery

/-- The environment variable that names the log level. -/
def levelVariable : String := "PART_SEARCH_LOG_LEVEL"

/-- Two decimal digits of a number. -/
def twoDigits (n : Int) : String :=
  String.ofList [Nat.digitChar (n.toNat / 10 % 10), Nat.digitChar (n.toNat % 10)]

/-- The parts of a time of day on a day: month, day, hour, minute and second. -/
def timeParts (time : Std.Time.PlainDateTime) : List String :=
  [time.month.val, time.day.val, time.hour.val, time.minute.val, time.second.val].map twoDigits

/-- The time in front of a log line. -/
def linePrefix (parts : List String) : String :=
  String.intercalate "-" (parts.take 2) ++ " " ++ String.intercalate ":" (parts.drop 2) ++ " "

/-- Adds lines at the end of a file, whose directory is made if it is not there. -/
def appendLines (path : String) (lines : List String) : IO Unit := do
  let steps := Text.split '/' path
  IO.FS.createDirAll (String.intercalate "/" steps.dropLast)
  let file ← IO.FS.Handle.mk path .append
  for line in lines do
    file.putStrLn line

/-- Writes what a command left and returns the exit status. -/
def publish (parts : List String) (finished : Command.Finished) : IO UInt32 := do
  let stamped := finished.journal.files.map fun (path, lines) =>
    (path, lines.map (linePrefix parts ++ ·))
  for (path, lines) in stamped do
    appendLines path lines
  for line in finished.journal.console do
    IO.eprintln (linePrefix parts ++ line)
  IO.print finished.stdout
  match finished.status with
  | .ok status => return UInt32.ofNat status
  | .error _ =>
    IO.eprintln "Aborted!"
    return 1

/-- Runs the program. -/
def main (args : List String) : IO UInt32 := do
  match Arguments.read args with
  | none =>
    IO.eprintln Arguments.usage
    return 2
  | some arguments =>
    let level ← IO.getEnv levelVariable
    let text ← arguments.config.mapM fun path => IO.FS.readFile path
    match Config.load level text with
    | .error fault =>
      IO.eprintln fault.message
      return 1
    | .ok config =>
      let parts := timeParts (← Std.Time.PlainDateTime.now)
      let command := arguments.command
      let terminal ← (← IO.getStdout).isTty
      let occasion := ⟨command.name, String.join parts, terminal, Command.callsLeft⟩
      match command.perform config.log config.searchOptions occasion arguments.query with
      | .error fault =>
        IO.eprintln fault.message
        return 1
      | .ok finished => publish parts finished
