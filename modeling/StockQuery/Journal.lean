import StockQuery.Entries
import StockQuery.Text.LetterCase
import StockQuery.Text.Split

/-!
# Journal

The journal keeps what is noted while requests are served. An entry goes to the console if it is at
least as grave as the level asked for; if an action keeps a file, the file takes every entry down to
the debug level, whatever the console shows. Configuring the journal again replaces where entries
go and keeps what was written.

An entry first has to pass the journal's own level and then that of each handler. With a file the
journal's own level is the debug level, and so the console still follows the level asked for.

Asking for a level by a name that means nothing is not a fault. It is one to use a name that
something else has, or to ask for a file at a path that cannot be one; the journal then stays as it
was.
-/

namespace StockQuery

/-! ## Faults -/

/-- Why the journal cannot be kept as asked for. -/
inductive JournalFault where
  /-- The layout of plain entries is asked for as a level. -/
  | layoutAsLevel
  /-- The table of layouts is asked for as a level. -/
  | layoutsAsLevel
  /-- The path of the file holds the zero character. -/
  | zeroInPath
deriving DecidableEq, Repr

/-- The fault in words. -/
def JournalFault.message : JournalFault → String
  | .layoutAsLevel => "Unknown level: '%(levelname)s:%(name)s:%(message)s'"
  | .layoutsAsLevel =>
    "Level not an integer or a valid string: \x7b"
      ++ "'%': (<class 'logging.PercentStyle'>, '%(levelname)s:%(name)s:%(message)s'), "
      ++ "'\x7b': (<class 'logging.StrFormatStyle'>, "
      ++ "'\x7blevelname\x7d:\x7bname\x7d:\x7bmessage\x7d'), "
      ++ "'$': (<class 'logging.StringTemplateStyle'>, "
      ++ "'$\x7blevelname\x7d:$\x7bname\x7d:$\x7bmessage\x7d')\x7d"
  | .zeroInPath => "embedded null byte"

/-! ## Levels -/

/-- How grave an entry is. Any number will do; some have names. -/
abbrev Level := Int

namespace Level

/-- Details that help to trace a search. -/
def debug : Level := 10

/-- Usual events. -/
def info : Level := 20

/-- Searches that were turned down. -/
def warning : Level := 30

/-- Requests that failed. -/
def error : Level := 40

/-- Failures that end everything. -/
def critical : Level := 50

/-- No level of its own. -/
def unset : Level := 0

/-- The levels that can be asked for by name, in upper case. -/
def named : List (String × Level) := [
  ("DEBUG", debug), ("INFO", info), ("WARNING", warning), ("WARN", warning), ("ERROR", error),
  ("CRITICAL", critical), ("FATAL", critical), ("NOTSET", unset)]

/-- Names in upper case that are taken by something other than a level. -/
def taken : List (String × JournalFault) := [
  ("BASIC_FORMAT", .layoutAsLevel), ("_STYLES", .layoutsAsLevel)]

/-- The level of a name in any letter case; for a name that means nothing, the level of usual
events. -/
def ofName (name : String) : Except JournalFault Level :=
  match taken.lookup (Text.upper name) with
  | some fault => .error fault
  | none => .ok ((named.lookup (Text.upper name)).getD info)

/-- The four letters in front of an entry. -/
def abbreviation (level : Level) : String :=
  if level = debug then "DEBG"
  else if level = info then "INFO"
  else if level = warning then "WARN"
  else if level = error ∨ level = critical then "ERRO"
  else if level = unset then "NOTS"
  else "Leve"

end Level

/-! ## Entries -/

/-- An entry of the journal. -/
structure LogEntry where
  /-- How grave it is. -/
  level : Level
  /-- What it says. -/
  message : String
deriving DecidableEq, Repr

/-- The entry as it is written: its level and its message, on more than one line if the message has
line feeds. -/
def LogEntry.lines (entry : LogEntry) : List String :=
  Text.split '\n' ("[" ++ entry.level.abbreviation ++ "] " ++ entry.message)

/-! ## Places to write to -/

/-- Where entries go. -/
inductive Handler where
  /-- The console, for entries of at least a level. -/
  | console (level : Level)
  /-- The console, for entries of at least a level, without their level in front. -/
  | bareConsole (level : Level)
  /-- A file, for entries of at least a level. -/
  | file (level : Level) (path : String)
deriving DecidableEq, Repr

/-- The level from which a handler takes entries. -/
def Handler.level : Handler → Level
  | .console level => level
  | .bareConsole level => level
  | .file level _ => level

/-- Adds a step of a path to the steps before it: a step that leads nowhere is left out, and a step
up takes back the one before. -/
def addPathStep (steps : List String) (step : String) : List String :=
  if step = "" ∨ step = "." then steps
  else if step = ".." ∧ steps ≠ [] ∧ steps.getLast? ≠ some ".." then steps.dropLast
  else steps ++ [step]

/-- The steps of a path that are left in its plain form. -/
def pathSteps (path : String) : List String := (Text.split '/' path).foldl addPathStep []

/-- The path in its plain form, without steps that lead nowhere. -/
def plainPath (path : String) : String :=
  (if path.toList.head? = some '/' then "/" else "") ++ String.intercalate "/" (pathSteps path)

/-- The path that leads on from `base`. A path that starts at the root does not go by `base`. -/
def followPath (base path : String) : String :=
  if path.toList.head? = some '/' then path else base ++ "/" ++ path

/-- The file of an action that is started at the time `stamp`. -/
def logPath (dir action stamp : String) : String :=
  plainPath (followPath (followPath dir action) (action ++ "_" ++ stamp ++ ".log"))

/-- How the journal is to be kept. -/
structure JournalOptions where
  /-- The name of the level for the console; an empty one stands for the usual level. -/
  level : String := "INFO"
  /-- The action that is logged; an empty one has no file. -/
  action : String := ""
  /-- Whether the action keeps a file. -/
  toFile : Bool := false
  /-- The directory of log files; an empty one stands for the usual directory. -/
  dir : String := "log"
deriving DecidableEq, Repr

namespace JournalOptions

/-- The level for the console. -/
def consoleLevel (options : JournalOptions) : Except JournalFault Level :=
  Level.ofName (if options.level = "" then "INFO" else options.level)

/-- The file for an action that is started at the time `stamp`, if it keeps one. -/
def file? (options : JournalOptions) (stamp : String) : Except JournalFault (Option String) :=
  if options.toFile ∧ options.action ≠ "" then
    if '\x00' ∈ options.dir.toList ++ options.action.toList then .error .zeroInPath
    else
      .ok (some (logPath (if options.dir = "" then "log" else options.dir) options.action stamp))
  else .ok none

end JournalOptions

/-! ## The journal -/

/-- The journal: where entries go and what was written. -/
structure Journal where
  /-- The journal's own level; `unset` leaves it at the level of warnings. -/
  level : Level := Level.unset
  /-- Where entries go, in order. -/
  handlers : List Handler := [.bareConsole Level.warning]
  /-- The lines shown on the console. -/
  console : List String := []
  /-- The lines of each file. -/
  files : List (String × List String) := []
deriving DecidableEq, Repr

namespace Journal

/-- The journal before it is configured: warnings go to the console as they are. -/
def fresh : Journal := {}

/-- Puts lines at the end of a file, which is made if it is not there. -/
def append (path : String) (lines : List String) (files : List (String × List String)) :
    List (String × List String) :=
  Entries.amend path (fun old => old.getD [] ++ lines) files

/-- Sets where entries go from now on: the console, and a file if there is one. -/
def configure (options : JournalOptions) (stamp : String) (journal : Journal) :
    Except JournalFault Journal := do
  let level ← options.consoleLevel
  match ← options.file? stamp with
  | none => return { journal with level := level, handlers := [.console level] }
  | some path =>
    return { journal with
      level := Level.debug
      handlers := [.console level, .file Level.debug path]
      files := append path [] journal.files }

/-- The least level that an entry needs to be looked at. -/
def threshold (journal : Journal) : Level :=
  if journal.level = Level.unset then Level.warning else journal.level

/-- Hands an entry to a handler, which writes it if it is grave enough. -/
def deliver (entry : LogEntry) (journal : Journal) (handler : Handler) : Journal :=
  if entry.level < handler.level then journal
  else
    match handler with
    | .console _ => { journal with console := journal.console ++ entry.lines }
    | .bareConsole _ => { journal with console := journal.console ++ Text.split '\n' entry.message }
    | .file _ path => { journal with files := append path entry.lines journal.files }

/-- Notes an entry. -/
def record (journal : Journal) (entry : LogEntry) : Journal :=
  if entry.level < journal.threshold then journal
  else journal.handlers.foldl (deliver entry) journal

/-- Notes entries one after the other. -/
def recordAll (journal : Journal) (entries : List LogEntry) : Journal :=
  entries.foldl record journal

end Journal

end StockQuery
