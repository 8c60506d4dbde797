import StockQuery.Journal
import StockQuery.Statement

/-!
# Search service

The service answers search strings with rows. It reads the string, compiles it, and hands the
statement to an executor, the only thing it asks of the outside; a search string that is rejected or
asks for nothing never gets that far. The executor is given by the responses it is going to make,
one per call, so that a run of requests is a function of its inputs.

The values in rows are of any type `α`, since the service only touches the names of columns.
-/

namespace StockQuery

/-! ## Preparing a search -/

/-- What governs how search strings are read and compiled. -/
structure SearchOptions where
  /-- The most terms that are neither quoted nor negated, if there is a limit. -/
  maxTerms : Option Int := none
  /-- The name of the relaxation. -/
  relaxation : String := "exhaustive"
  /-- The name of the parameter style. -/
  paramstyle : String := "qmark"
deriving DecidableEq, Repr

/-- A search that can be carried out. -/
structure SearchPlan where
  /-- The full-text query and the filters. -/
  query : RankedQuery
  /-- The statement, if there is something to search for. -/
  statement : Option Statement
deriving DecidableEq, Repr

/-- Reads and compiles a search string. -/
def SearchOptions.prepare (options : SearchOptions) (raw : String) :
    Except Refusal SearchPlan := do
  let query ← RankedQuery.parse options.maxTerms options.relaxation raw
  let statement ← (query.compile options.paramstyle).mapError .failed
  return ⟨query, statement⟩

/-! ## What is logged -/

/-- A filter value as it is logged. -/
def Criterion.shown : Criterion → String
  | .plain value => Text.quote value
  | .negated value => "Negated(value=" ++ Text.quote value ++ ")"

/-- The values of a filter as they are logged: a single one is followed by a comma. -/
def shownValues (values : List Criterion) : String :=
  "(" ++ String.intercalate ", " (values.map Criterion.shown)
    ++ (if values.length = 1 then "," else "") ++ ")"

/-- Filters as they are logged. -/
def Filters.shown (filters : Filters) : String :=
  "\x7b" ++ String.intercalate ", " (filters.map fun (name, values) =>
    Text.quote name ++ ": " ++ shownValues values) ++ "\x7d"

/-- A statement as it is logged. -/
def shownStatement : Option Statement → String
  | none => "none"
  | some statement => toString statement.params.length ++ " params"

/-- What is noted when a search string is rejected. -/
def rejectedEntry (raw : String) (rejection : Rejection) : LogEntry :=
  ⟨Level.debug, "Rejected search " ++ Text.quote raw ++ ": " ++ rejection.summary⟩

/-- What is noted when a search is prepared. -/
def preparedEntry (raw : String) (prepared : SearchPlan) : LogEntry :=
  ⟨Level.debug, "Prepared search " ++ Text.quote raw ++ " filters=" ++ prepared.query.filters.shown
    ++ " statement=" ++ shownStatement prepared.statement⟩

/-- What is noted when rows were found. -/
def matchedEntry (raw : String) (count : Nat) : LogEntry :=
  ⟨Level.info, "Search " ++ Text.quote raw ++ " matched " ++ toString count ++ " parts"⟩

/-- What is noted while a search string is prepared. A failure is left to the caller to note. -/
def preparationEntries (raw : String) : Except Refusal SearchPlan → List LogEntry
  | .error (.rejected rejection) => [rejectedEntry raw rejection]
  | .error (.failed _) => []
  | .ok prepared => [preparedEntry raw prepared]

/-! ## Rows -/

/-- A row: the values of its columns, in order. -/
abbrev Row (α : Type) := List (String × α)

/-- The key of a column: in lower case, with hyphens for underscores. -/
def columnKey (name : String) : String :=
  Text.lower (String.ofList (name.toList.map fun c => if c = '_' then '-' else c))

/-- The row by keys. Of columns with the same key the last value stays, at the place of the
first. -/
def Row.keyed {α : Type} (row : Row α) : Row α :=
  Entries.ofPairs (row.map fun (name, value) => (columnKey name, value))

/-! ## Requests -/

/-- What an executor does with a statement. -/
inductive Response (α : Type) where
  /-- It returns rows. -/
  | rows (rows : List (Row α))
  /-- It fails. -/
  | failure (text : String)

/-- The outcome of a search that does not fail. -/
inductive Finding (α : Type) where
  /-- The search string was rejected. -/
  | rejected (rejection : Rejection)
  /-- There was nothing to search for. -/
  | nothing
  /-- A statement was run and returned rows. -/
  | found (statement : Statement) (rows : List (Row α))

/-- A change of one option. -/
inductive OptionChange where
  /-- Sets the limit on terms. -/
  | maxTerms (limit : Option Int)
  /-- Sets the name of the relaxation. -/
  | relaxation (name : String)
  /-- Sets the name of the parameter style. -/
  | paramstyle (name : String)
deriving DecidableEq, Repr

/-- The options with one of them changed. -/
def SearchOptions.change (options : SearchOptions) : OptionChange → SearchOptions
  | .maxTerms limit => { options with maxTerms := limit }
  | .relaxation name => { options with relaxation := name }
  | .paramstyle name => { options with paramstyle := name }

/-- What can be asked of the service. -/
inductive Request where
  /-- Change options. -/
  | change (changes : List OptionChange)
  /-- Prepare a search without running it. -/
  | prepare (raw : String)
  /-- Search for parts. -/
  | search (raw : String)
deriving DecidableEq, Repr

/-- What the service answers. -/
inductive Reply (α : Type) where
  /-- The options are changed. -/
  | changed
  /-- The search is prepared, or refused. -/
  | prepared (outcome : Except Refusal SearchPlan)
  /-- The search is carried out, or fails. -/
  | searched (outcome : Except Failure (Finding α))

/-- All that can be seen of one request. -/
structure Served (α : Type) where
  /-- The answer. -/
  reply : Reply α
  /-- The entries that were noted. -/
  entries : List LogEntry := []
  /-- The statements that were handed to the executor. -/
  calls : List Statement := []

/-- The service: its options, and the responses that its executor is going to make. -/
structure Service (α : Type) where
  /-- The options. -/
  options : SearchOptions := {}
  /-- The responses still to come; `none` if there is no executor. -/
  executor : Option (List (Response α)) := none

namespace Service

variable {α : Type}

/-- Takes the next response. An executor that runs out of responses finds no rows. -/
def respond : List (Response α) → Response α × List (Response α)
  | [] => (.rows [], [])
  | response :: rest => (response, rest)

/-- Runs the statement of a prepared search. -/
def execute (service : Service α) (raw : String) (statement : Statement)
    (entries : List LogEntry) : Served α × Service α :=
  match service.executor with
  | none => (⟨.searched (.error .noExecutor), entries, []⟩, service)
  | some responses =>
    let (response, rest) := respond responses
    let next := { service with executor := some rest }
    match response with
    | .failure text => (⟨.searched (.error (.executorFailed text)), entries, [statement]⟩, next)
    | .rows rows =>
      (⟨.searched (.ok (.found statement (rows.map Row.keyed))),
        entries ++ [matchedEntry raw rows.length], [statement]⟩, next)

/-- Searches for parts. Only a search with a statement reaches the executor. -/
def search (service : Service α) (raw : String) : Served α × Service α :=
  let outcome := service.options.prepare raw
  let entries := preparationEntries raw outcome
  match outcome with
  | .error (.rejected rejection) => (⟨.searched (.ok (.rejected rejection)), entries, []⟩, service)
  | .error (.failed failure) => (⟨.searched (.error failure), entries, []⟩, service)
  | .ok prepared =>
    match prepared.statement with
    | none => (⟨.searched (.ok .nothing), entries, []⟩, service)
    | some statement => service.execute raw statement entries

/-- Serves a request. -/
def serve (service : Service α) : Request → Served α × Service α
  | .change changes =>
    (⟨.changed, [], []⟩, { service with options := changes.foldl .change service.options })
  | .prepare raw =>
    let outcome := service.options.prepare raw
    (⟨.prepared outcome, preparationEntries raw outcome, []⟩, service)
  | .search raw => service.search raw

/-- Serves requests one after the other; returns also the service afterwards. -/
def serveAll (service : Service α) : List Request → List (Served α) × Service α
  | [] => ([], service)
  | request :: rest =>
    let (served, next) := service.serve request
    let (later, last) := next.serveAll rest
    (served :: later, last)

end Service

end StockQuery
