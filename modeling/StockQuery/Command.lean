import StockQuery.Report.Plain
import StockQuery.Report.Structured
import StockQuery.Settings.Config
import StockQuery.Text.ControlSequence

/-!
# Commands

There are two commands. `compile` prints the statement of a search string, and `explain` prints how
the search string is understood. A search string that is rejected is reported on standard output
and gives exit status 2. A failure is noted in the journal and aborts the command, which then
prints nothing; with settings that exist the one failure is that a search has more terms than can be
enumerated. A report may quote the search string as it stands, and so it is written without
terminal control sequences unless standard output is a terminal.
-/

namespace StockQuery

/-- The form in which `compile` prints. -/
inductive OutputFormat where
  /-- For people. -/
  | text
  /-- For programs. -/
  | json
deriving DecidableEq, Repr

/-- The format of a name: anything but `json` means text. -/
def OutputFormat.ofName (name : String) : OutputFormat := if name = "json" then .json else .text

/-- What a command prints, and whether the search string was accepted. -/
structure Printout where
  /-- The text to print. -/
  text : String
  /-- Whether the search string was accepted. -/
  accepted : Bool
deriving DecidableEq, Repr

/-- A command. -/
inductive Command where
  /-- Print the statement of a search string. -/
  | compile (format : OutputFormat)
  /-- Print how a search string is understood. -/
  | explain
deriving DecidableEq, Repr

/-- Whether the choices for a search string can be enumerated with so many nested calls left. There
is nothing to enumerate for a search string that is rejected or has no terms, and under a relaxation
that does not exist. -/
def SearchOptions.fits (options : SearchOptions) (calls : Nat) (raw : String) : Bool :=
  match NormalQuery.parse options.maxTerms raw, Relaxation.ofName? options.relaxation with
  | .ok query, some relaxation => query.terms.isEmpty || relaxation.fits calls query.terms
  | _, _ => true

namespace Command

/-- The warning that a search string was rejected. -/
def rejectionWarning (rejection : Rejection) : LogEntry :=
  ⟨Level.warning, "Search rejected: " ++ rejection.summary⟩

/-- Carries out `compile`; returns also the entries that are noted. -/
def runCompile (options : SearchOptions) (format : OutputFormat) (raw : String) :
    Except Failure Printout × List LogEntry :=
  let outcome := options.prepare raw
  let entries := preparationEntries raw outcome
  match outcome with
  | .error (.failed failure) => (.error failure, entries)
  | .error (.rejected rejection) =>
    let text :=
      match format with
      | .text => Report.diagnosis rejection.diagnosis
      | .json => Report.diagnosisJson rejection.diagnosis
    (.ok ⟨text, false⟩, entries ++ [rejectionWarning rejection])
  | .ok prepared =>
    let text :=
      match format with
      | .text => Report.statement prepared.statement
      | .json => Report.preparedJson prepared
    (.ok ⟨text, true⟩, entries)

/-- Carries out `explain`; returns also the entries that are noted. -/
def runExplain (options : SearchOptions) (raw : String) :
    Except Failure Printout × List LogEntry :=
  match NormalQuery.parse options.maxTerms raw with
  | .error rejection =>
    (.ok ⟨Report.diagnosis rejection.diagnosis, false⟩, [rejectionWarning rejection])
  | .ok query =>
    match query.textQuery options.relaxation with
    | .error failure => (.error failure, [])
    | .ok text => (.ok ⟨Report.explanation query text, true⟩, [])

/-- Carries out a command that has all the nested calls that it needs; returns also the entries that
are noted. -/
def run (options : SearchOptions) (raw : String) : Command →
    Except Failure Printout × List LogEntry
  | .compile format => runCompile options format raw
  | .explain => runExplain options raw

/-- Carries out a command with so many nested calls left where it enumerates choices. -/
def runWithin (calls : Nat) (options : SearchOptions) (raw : String) (command : Command) :
    Except Failure Printout × List LogEntry :=
  if options.fits calls raw then command.run options raw else (.error .tooDeep, [])

/-- The name of the command. -/
def name : Command → String
  | .compile _ => "compile"
  | .explain => "explain"

/-- The nested calls that a command of the command line has left for choices: a thousand less those
that lead there. -/
def callsLeft : Nat := 983

/-- The exit status for a search string that is rejected. -/
def rejectedStatus : Nat := 2

/-- The circumstances in which a command is carried out. -/
structure Occasion where
  /-- The name of the action, after which its log file is called. -/
  action : String
  /-- The time at which it starts, as log files are stamped with it. -/
  stamp : String
  /-- Whether standard output is a terminal. -/
  terminal : Bool
  /-- How many calls can still be nested where choices are enumerated. -/
  calls : Nat
deriving DecidableEq, Repr

/-- How a command ended, with all that it wrote. -/
structure Finished where
  /-- The exit status, or the failure that aborted the command. -/
  status : Except Failure Nat
  /-- The text on standard output. -/
  stdout : String
  /-- The journal afterwards. -/
  journal : Journal
deriving Repr

/-- Carries out a command as an action of its own: configures the journal, notes what happens, and
prints. Nothing is carried out if the journal cannot be kept. -/
def perform (log : LogSettings) (options : SearchOptions) (occasion : Occasion) (raw : String)
    (command : Command) : Except JournalFault Finished := do
  let journalOptions := ⟨log.level, occasion.action, log.toFile, log.dir⟩
  let journal ← Journal.fresh.configure journalOptions occasion.stamp
  let (outcome, entries) := command.runWithin occasion.calls options raw
  let journal := journal.recordAll entries
  match outcome with
  | .error failure =>
    let entry := ⟨Level.error, "Command failed: " ++ failure.message⟩
    return ⟨.error failure, "", journal.record entry⟩
  | .ok output =>
    let status := if output.accepted then 0 else rejectedStatus
    return ⟨.ok status, Text.forOutput occasion.terminal (output.text ++ "\n"), journal⟩

end Command

end StockQuery
