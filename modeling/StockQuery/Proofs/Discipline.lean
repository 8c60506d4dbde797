import Mathlib.Logic.ExistsUnique
import StockQuery.Proofs.OneLine

/-!
# Discipline of the service

What the service does with a request is determined by the options at that time and by the response
that the executor makes next. Only a search with a statement uses up a response, and only a change
of options changes them; a rejected search string, a bad setting and a failing executor leave the
service as ready as before. A run of requests is therefore a run of disciplined steps, each of them
under the options that the changes before it lead to and with the response that the calls before it
have left.
-/

namespace StockQuery

variable {α : Type}

/-! ## What a request depends on -/

/-- The changes of options that a request asks for. -/
def Request.changes : Request → List OptionChange
  | .change changes => changes
  | .prepare _ => []
  | .search _ => []

/-- The options once the requests are served. -/
def SearchOptions.after (options : SearchOptions) (requests : List Request) : SearchOptions :=
  (requests.flatMap Request.changes).foldl .change options

/-- The statement of a search string, if it can be prepared and asks for something. -/
def SearchOptions.statement? (options : SearchOptions) (raw : String) : Option Statement :=
  match options.prepare raw with
  | .ok plan => plan.statement
  | .error _ => none

/-- The response to the call with the number `k`, the first one being 0. -/
def responseAt (responses : List (Response α)) (k : Nat) : Response α :=
  responses[k]?.getD (.rows [])

/-! ## What a finding shows -/

namespace Finding

/-- Why the search string was rejected, if it was. -/
def error? : Finding α → Option Rejection
  | rejected rejection => some rejection
  | nothing => none
  | found _ _ => none

/-- The rows. -/
def rows : Finding α → List (Row α)
  | rejected _ => []
  | nothing => []
  | found _ rows => rows

/-- The statement that was run, if one was. -/
def statement? : Finding α → Option Statement
  | rejected _ => none
  | nothing => none
  | found statement _ => some statement

end Finding

/-! ## Disciplined requests -/

/-- The three ways in which a search ends that does not fail. -/
inductive Ending where
  /-- The search string is rejected. -/
  | rejected
  /-- There is nothing to search for. -/
  | idle
  /-- The statement is run. -/
  | ran

/-- Whether a search ended in a way, by its finding and the statements that were run. -/
def Ending.Fits (options : SearchOptions) (next : Option (Response α)) (raw : String)
    (finding : Finding α) (calls : List Statement) : Ending → Prop
  | rejected =>
    finding.error? ≠ none ∧ finding.rows = [] ∧ finding.statement? = none ∧ calls = []
  | idle =>
    finding.error? = none ∧ finding.rows = [] ∧ finding.statement? = none ∧ calls = []
  | ran => ∃ statement rows, options.statement? raw = some statement ∧ next = some (.rows rows) ∧
    finding.error? = none ∧ finding.rows = rows.map Row.keyed ∧
    finding.statement? = some statement ∧ calls = [statement]

/-- The ways in which a search fails. `next` is what the executor is going to do, if there is
one. -/
inductive SearchOptions.Fails (options : SearchOptions) (next : Option (Response α))
    (raw : String) : Failure → Prop where
  /-- The search cannot be prepared. -/
  | preparation {failure : Failure} (h : options.prepare raw = .error (.failed failure)) :
    Fails options next raw failure
  /-- There is a statement and nothing to run it. -/
  | noExecutor {statement : Statement} (h : options.statement? raw = some statement)
    (hnext : next = none) : Fails options next raw .noExecutor
  /-- The executor fails on the statement. -/
  | executor {statement : Statement} {text : String}
    (h : options.statement? raw = some statement) (hnext : next = some (.failure text)) :
    Fails options next raw (.executorFailed text)

/-- An entry of a level that is written on one line. -/
def LogEntry.IsLine (level : Level) (entry : LogEntry) : Prop :=
  entry.level = level ∧ entry.lines.length = 1

/-- The entries about a search string: none if it cannot be prepared, and otherwise one at the debug
level, followed by one at the info level if and only if the executor `returned` rows. -/
structure Notes (options : SearchOptions) (raw : String) (returned : Prop)
    (entries : List LogEntry) : Prop where
  /-- Nothing is noted of a search string that cannot be prepared. -/
  failed : ∀ failure, options.prepare raw = .error (.failed failure) → entries = []
  /-- One entry is noted first, and a second one if rows were returned. -/
  prepared : (∀ failure, options.prepare raw ≠ .error (.failed failure)) →
    ∃ first later, entries = first :: later ∧ first.IsLine Level.debug ∧
      (returned → ∃ second, later = [second] ∧ second.IsLine Level.info) ∧
      (¬ returned → later = [])

/-- A search that keeps to the discipline. -/
structure Searches (options : SearchOptions) (next : Option (Response α)) (raw : String)
    (outcome : Except Failure (Finding α)) (served : Served α) : Prop where
  /-- The answer is the outcome of a search. -/
  reply : served.reply = .searched outcome
  /-- The statement, if there is one, is run once, and nothing else is. -/
  calls : served.calls = if next.isSome then (options.statement? raw).toList else []
  /-- A search that does not fail ends in exactly one way. -/
  ending : ∀ finding, outcome = .ok finding →
    ∃! ending : Ending, ending.Fits options next raw finding served.calls
  /-- A rejection is reported exactly if the search string is rejected. -/
  error : ∀ finding rejection, outcome = .ok finding →
    (finding.error? = some rejection ↔ options.prepare raw = .error (.rejected rejection))
  /-- The search fails exactly in the ways in which it can. -/
  fails : ∀ failure, outcome = .error failure ↔ options.Fails next raw failure
  /-- The entries are those for a search string, the second one only after rows. -/
  notes : Notes options raw (served.calls ≠ [] ∧ ∃ rows, next = some (.rows rows)) served.entries

/-- A request that keeps to the discipline under some options, `next` being what the executor is
going to do if there is one. -/
def Disciplined (options : SearchOptions) (next : Option (Response α)) (served : Served α) :
    Request → Prop
  | .change _ => served.reply = .changed ∧ served.calls = [] ∧ served.entries = []
  | .prepare raw => served.reply = .prepared (options.prepare raw) ∧ served.calls = [] ∧
    Notes options raw False served.entries
  | .search raw => ∃ outcome, Searches options next raw outcome served

/-! ## Entries -/

theorem isLine_rejectedEntry (raw : String) (rejection : Rejection) :
    (rejectedEntry raw rejection).IsLine Level.debug := by
  refine ⟨rfl, ?_⟩
  rw [LogEntry.lines_eq_singleton (printable_rejectedEntry raw rejection), List.length_singleton]

theorem isLine_preparedEntry (raw : String) (plan : SearchPlan) :
    (preparedEntry raw plan).IsLine Level.debug := by
  refine ⟨rfl, ?_⟩
  rw [LogEntry.lines_eq_singleton (printable_preparedEntry raw plan), List.length_singleton]

theorem isLine_matchedEntry (raw : String) (count : Nat) :
    (matchedEntry raw count).IsLine Level.info := by
  refine ⟨rfl, ?_⟩
  rw [LogEntry.lines_eq_singleton (printable_matchedEntry raw count), List.length_singleton]

/-- Preparing a search notes one line, unless it fails. -/
theorem preparationEntries_cases (raw : String) (prepared : Except Refusal SearchPlan) :
    (∃ failure, prepared = .error (.failed failure) ∧ preparationEntries raw prepared = []) ∨
    (∀ failure, prepared ≠ .error (.failed failure)) ∧
      ∃ entry, preparationEntries raw prepared = [entry] ∧ entry.IsLine Level.debug := by
  rcases prepared with (rejection | failure) | plan
  · exact .inr ⟨by simp, _, rfl, isLine_rejectedEntry raw rejection⟩
  · exact .inl ⟨failure, rfl, rfl⟩
  · exact .inr ⟨by simp, _, rfl, isLine_preparedEntry raw plan⟩

variable {options : SearchOptions} {raw : String}

/-- Without rows there is nothing to note but the preparation. -/
theorem Notes.of_not_returned {returned : Prop} (h : ¬ returned) :
    Notes options raw returned (preparationEntries raw (options.prepare raw)) := by
  rcases preparationEntries_cases raw (options.prepare raw) with
    ⟨failure, hfailed, hnone⟩ | ⟨hprepared, entry, hentry, hline⟩
  · exact ⟨fun _ _ => hnone, fun hprepared => absurd hfailed (hprepared failure)⟩
  · refine ⟨fun failure hfailed => absurd hfailed (hprepared failure), fun _ => ?_⟩
    exact ⟨entry, [], hentry, hline, fun hreturned => absurd hreturned h, fun _ => rfl⟩

/-- Rows are noted after the preparation. -/
theorem Notes.of_returned {returned : Prop} {plan : SearchPlan} (h : returned)
    (hplan : options.prepare raw = .ok plan) (count : Nat) :
    Notes options raw returned
      (preparationEntries raw (options.prepare raw) ++ [matchedEntry raw count]) := by
  rw [hplan]
  refine ⟨fun failure hfailed => ?_, fun _ => ?_⟩
  · rw [hplan] at hfailed
    cases hfailed
  · exact ⟨preparedEntry raw plan, [matchedEntry raw count], rfl, isLine_preparedEntry raw plan,
      fun _ => ⟨_, rfl, isLine_matchedEntry raw count⟩, fun hnot => absurd h hnot⟩

/-! ## One request -/

theorem SearchOptions.statement?_of_ok {plan : SearchPlan} {statement : Option Statement}
    (h : options.prepare raw = .ok plan) (hstatement : plan.statement = statement) :
    options.statement? raw = statement := by
  rw [SearchOptions.statement?, h]
  exact hstatement

theorem SearchOptions.statement?_of_error {refusal : Refusal}
    (h : options.prepare raw = .error refusal) : options.statement? raw = none := by
  rw [SearchOptions.statement?, h]

namespace Service

theorem respond_eq (responses : List (Response α)) :
    respond responses = (responseAt responses 0, responses.drop 1) := by
  cases responses with
  | nil => rfl
  | cons response rest => rfl

/-- The service once it has served requests and handed statements to the executor. -/
def afterward (service : Service α) (requests : List Request) (calls : List Statement) :
    Service α :=
  ⟨service.options.after requests, service.executor.map (·.drop calls.length)⟩

/-- Nothing is left of requests that change nothing and ask nothing of the executor. -/
theorem afterward_eq_self (service : Service α) {requests : List Request}
    (h : requests.flatMap Request.changes = []) : service.afterward requests [] = service := by
  obtain ⟨options, executor⟩ := service
  have hoptions : options.after requests = options := by
    rw [SearchOptions.after, h, List.foldl_nil]
  cases executor with
  | none => simp [afterward, hoptions]
  | some responses => simp [afterward, hoptions]

theorem afterward_afterward (service : Service α) (requests more : List Request)
    (calls others : List Statement) : (service.afterward requests calls).afterward more others =
      service.afterward (requests ++ more) (calls ++ others) := by
  have hoptions : (service.options.after requests).after more =
      service.options.after (requests ++ more) := by
    simp [SearchOptions.after]
  obtain ⟨options, executor⟩ := service
  cases executor with
  | none => simp [afterward, hoptions]
  | some responses => simp [afterward, hoptions, List.drop_drop]

variable {service : Service α}

/-- What the executor is going to do next, if there is one. -/
def next (service : Service α) : Option (Response α) := service.executor.map (responseAt · 0)

theorem next_afterward (service : Service α) (requests : List Request) (calls : List Statement) :
    (service.afterward requests calls).next =
      service.executor.map (responseAt · calls.length) := by
  simp [next, afterward, responseAt, Function.comp_def]

theorem search_of_rejected {rejection : Rejection}
    (h : service.options.prepare raw = .error (.rejected rejection)) :
    service.search raw = (⟨.searched (.ok (.rejected rejection)),
      preparationEntries raw (service.options.prepare raw), []⟩, service) := by
  simp only [search, h]

theorem search_of_failed {failure : Failure}
    (h : service.options.prepare raw = .error (.failed failure)) :
    service.search raw = (⟨.searched (.error failure),
      preparationEntries raw (service.options.prepare raw), []⟩, service) := by
  simp only [search, h]

theorem search_of_nothing {plan : SearchPlan} (h : service.options.prepare raw = .ok plan)
    (hstatement : plan.statement = none) :
    service.search raw = (⟨.searched (.ok .nothing),
      preparationEntries raw (service.options.prepare raw), []⟩, service) := by
  simp only [search, h, hstatement]

theorem search_of_statement {plan : SearchPlan} {statement : Statement}
    (h : service.options.prepare raw = .ok plan) (hstatement : plan.statement = some statement) :
    service.search raw = service.execute raw statement
      (preparationEntries raw (service.options.prepare raw)) := by
  simp only [search, h, hstatement]

theorem execute_of_none {statement : Statement} {entries : List LogEntry}
    (h : service.executor = none) :
    service.execute raw statement entries =
      (⟨.searched (.error .noExecutor), entries, []⟩, service) := by
  simp only [execute, h]

theorem execute_of_failure {statement : Statement} {entries : List LogEntry} {text : String}
    (h : service.next = some (.failure text)) :
    service.execute raw statement entries =
      (⟨.searched (.error (.executorFailed text)), entries, [statement]⟩,
        service.afterward [.search raw] [statement]) := by
  obtain ⟨responses, hresponses, hfirst⟩ := Option.map_eq_some_iff.1 h
  simp only [execute, hresponses, respond_eq, hfirst, afterward, Option.map_some,
    List.length_singleton]
  rfl

theorem execute_of_rows {statement : Statement} {entries : List LogEntry} {rows : List (Row α)}
    (h : service.next = some (.rows rows)) :
    service.execute raw statement entries =
      (⟨.searched (.ok (.found statement (rows.map Row.keyed))),
        entries ++ [matchedEntry raw rows.length], [statement]⟩,
        service.afterward [.search raw] [statement]) := by
  obtain ⟨responses, hresponses, hfirst⟩ := Option.map_eq_some_iff.1 h
  simp only [execute, hresponses, respond_eq, hfirst, afterward, Option.map_some,
    List.length_singleton]
  rfl

theorem next_eq_none : service.next = none ↔ service.executor = none := by
  rw [next, Option.map_eq_none_iff]

end Service

/-- Without a statement only the preparation can fail. -/
theorem SearchOptions.fails_iff_of_statement?_none {next : Option (Response α)} {failure : Failure}
    (h : options.statement? raw = none) :
    options.Fails next raw failure ↔ options.prepare raw = .error (.failed failure) := by
  constructor
  · intro hfails
    cases hfails with
    | preparation hfailed => exact hfailed
    | noExecutor hstatement => simp [h] at hstatement
    | executor hstatement => simp [h] at hstatement
  · exact .preparation

/-- With a statement only its execution can fail. -/
theorem SearchOptions.fails_iff_of_statement?_some {next : Option (Response α)} {failure : Failure}
    {statement : Statement} (h : options.statement? raw = some statement) :
    options.Fails next raw failure ↔ next = none ∧ failure = .noExecutor ∨
      ∃ text, next = some (.failure text) ∧ failure = .executorFailed text := by
  constructor
  · intro hfails
    cases hfails with
    | preparation hfailed =>
      rw [SearchOptions.statement?_of_error hfailed] at h
      cases h
    | noExecutor _ hnext => exact .inl ⟨hnext, rfl⟩
    | executor _ hnext => exact .inr ⟨_, hnext, rfl⟩
  · rintro (⟨hnext, rfl⟩ | ⟨text, hnext, rfl⟩)
    · exact .noExecutor h hnext
    · exact .executor h hnext

/-- What a finding shows leaves only one way in which the search ended. -/
theorem Ending.Fits.unique {next : Option (Response α)} {finding : Finding α}
    {calls : List Statement} {ending other : Ending}
    (h : ending.Fits options next raw finding calls)
    (hother : other.Fits options next raw finding calls) : other = ending := by
  cases ending with
  | rejected =>
    obtain ⟨herror, -⟩ := h
    cases other with
    | rejected => rfl
    | idle => exact absurd hother.1 herror
    | ran =>
      obtain ⟨_, _, _, _, hno, -⟩ := hother
      exact absurd hno herror
  | idle =>
    obtain ⟨herror, -, hnone, -⟩ := h
    cases other with
    | rejected => exact absurd herror hother.1
    | idle => rfl
    | ran =>
      obtain ⟨_, _, _, _, _, _, hsome, -⟩ := hother
      rw [hnone] at hsome
      cases hsome
  | ran =>
    obtain ⟨_, _, _, _, herror, _, hsome, -⟩ := h
    cases other with
    | rejected => exact absurd herror hother.1
    | idle =>
      obtain ⟨-, -, hnone, -⟩ := hother
      rw [hnone] at hsome
      cases hsome
    | ran => rfl

namespace Searches

variable {next : Option (Response α)}

theorem of_rejected {rejection : Rejection}
    (h : options.prepare raw = .error (.rejected rejection)) :
    Searches options next raw (.ok (.rejected rejection))
      ⟨.searched (.ok (.rejected rejection)), preparationEntries raw (options.prepare raw),
        []⟩ where
  reply := rfl
  calls := by simp [SearchOptions.statement?_of_error h]
  ending := by
    rintro finding ⟨⟩
    have hfits : Ending.rejected.Fits options next raw (.rejected rejection) [] :=
      ⟨by simp [Finding.error?], rfl, rfl, rfl⟩
    exact ⟨_, hfits, fun _ => hfits.unique⟩
  error := by
    rintro finding other ⟨⟩
    simp [Finding.error?, h]
  fails := by
    intro failure
    simp [SearchOptions.fails_iff_of_statement?_none (SearchOptions.statement?_of_error h), h]
  notes := .of_not_returned (by simp)

theorem of_failed {failure : Failure} (h : options.prepare raw = .error (.failed failure)) :
    Searches options next raw (.error failure)
      ⟨.searched (.error failure), preparationEntries raw (options.prepare raw), []⟩ where
  reply := rfl
  calls := by simp [SearchOptions.statement?_of_error h]
  ending := by simp
  error := by simp
  fails := by
    intro other
    simp [SearchOptions.fails_iff_of_statement?_none (SearchOptions.statement?_of_error h), h]
  notes := .of_not_returned (by simp)

theorem of_nothing {plan : SearchPlan} (h : options.prepare raw = .ok plan)
    (hstatement : plan.statement = none) :
    Searches options next raw (.ok .nothing)
      ⟨.searched (.ok .nothing), preparationEntries raw (options.prepare raw), []⟩ where
  reply := rfl
  calls := by simp [SearchOptions.statement?_of_ok h hstatement]
  ending := by
    rintro finding ⟨⟩
    have hfits : Ending.idle.Fits options next raw .nothing [] := ⟨rfl, rfl, rfl, rfl⟩
    exact ⟨_, hfits, fun _ => hfits.unique⟩
  error := by
    rintro finding rejection ⟨⟩
    simp [Finding.error?, h]
  fails := by
    have hnone := SearchOptions.statement?_of_ok h hstatement
    intro failure
    simp [SearchOptions.fails_iff_of_statement?_none hnone, h]
  notes := .of_not_returned (by simp)

variable {plan : SearchPlan} {statement : Statement}

theorem of_noExecutor (h : options.prepare raw = .ok plan)
    (hstatement : plan.statement = some statement) :
    Searches options (none : Option (Response α)) raw (.error .noExecutor)
      ⟨.searched (.error .noExecutor), preparationEntries raw (options.prepare raw), []⟩ where
  reply := rfl
  calls := by simp
  ending := by simp
  error := by simp
  fails := by
    have hsome := SearchOptions.statement?_of_ok h hstatement
    intro failure
    simp [SearchOptions.fails_iff_of_statement?_some hsome, eq_comm]
  notes := .of_not_returned (by simp)

theorem of_executorFailed {text : String} (h : options.prepare raw = .ok plan)
    (hstatement : plan.statement = some statement) :
    Searches options (some (.failure text) : Option (Response α)) raw
      (.error (.executorFailed text))
      ⟨.searched (.error (.executorFailed text)), preparationEntries raw (options.prepare raw),
        [statement]⟩ where
  reply := rfl
  calls := by simp [SearchOptions.statement?_of_ok h hstatement]
  ending := by simp
  error := by simp
  fails := by
    have hsome := SearchOptions.statement?_of_ok h hstatement
    intro failure
    simp [SearchOptions.fails_iff_of_statement?_some hsome, eq_comm]
  notes := .of_not_returned (by simp)

theorem of_found {rows : List (Row α)} (h : options.prepare raw = .ok plan)
    (hstatement : plan.statement = some statement) :
    Searches options (some (.rows rows)) raw (.ok (.found statement (rows.map Row.keyed)))
      ⟨.searched (.ok (.found statement (rows.map Row.keyed))),
        preparationEntries raw (options.prepare raw) ++ [matchedEntry raw rows.length],
        [statement]⟩ where
  reply := rfl
  calls := by simp [SearchOptions.statement?_of_ok h hstatement]
  ending := by
    rintro finding ⟨⟩
    have hsome := SearchOptions.statement?_of_ok h hstatement
    have hfits : Ending.ran.Fits options (some (.rows rows)) raw
        (.found statement (rows.map Row.keyed)) [statement] :=
      ⟨statement, rows, hsome, rfl, rfl, rfl, rfl, rfl⟩
    exact ⟨_, hfits, fun _ => hfits.unique⟩
  error := by
    rintro finding rejection ⟨⟩
    simp [Finding.error?, h]
  fails := by
    have hsome := SearchOptions.statement?_of_ok h hstatement
    intro failure
    simp [SearchOptions.fails_iff_of_statement?_some hsome]
  notes := .of_returned ⟨by simp, rows, rfl⟩ h rows.length

end Searches

namespace Service

/-- A search keeps to the discipline and takes a response for each call. -/
theorem search_disciplined (service : Service α) (raw : String) :
    (∃ outcome, Searches service.options service.next raw outcome (service.search raw).1) ∧
      (service.search raw).2 =
        service.afterward [.search raw] (service.search raw).1.calls := by
  have hself : service = service.afterward [.search raw] [] := (service.afterward_eq_self rfl).symm
  cases hprepared : service.options.prepare raw with
  | error refusal =>
    cases refusal with
    | rejected rejection =>
      rw [search_of_rejected hprepared]
      exact ⟨⟨_, .of_rejected hprepared⟩, hself⟩
    | failed failure =>
      rw [search_of_failed hprepared]
      exact ⟨⟨_, .of_failed hprepared⟩, hself⟩
  | ok plan =>
    cases hstatement : plan.statement with
    | none =>
      rw [search_of_nothing hprepared hstatement]
      exact ⟨⟨_, .of_nothing hprepared hstatement⟩, hself⟩
    | some statement =>
      rw [search_of_statement hprepared hstatement]
      cases hnext : service.next with
      | none =>
        rw [execute_of_none (next_eq_none.1 hnext)]
        exact ⟨⟨_, .of_noExecutor hprepared hstatement⟩, hself⟩
      | some response =>
        cases response with
        | failure text =>
          rw [execute_of_failure hnext]
          exact ⟨⟨_, .of_executorFailed hprepared hstatement⟩, rfl⟩
        | rows rows =>
          rw [execute_of_rows hnext]
          exact ⟨⟨_, .of_found hprepared hstatement⟩, rfl⟩

/-- A request keeps to the discipline, changes the options that it asks to change, and takes a
response for each call. -/
theorem serve_disciplined (service : Service α) (request : Request) :
    Disciplined service.options service.next (service.serve request).1 request ∧
      (service.serve request).2 =
        service.afterward [request] (service.serve request).1.calls := by
  cases request with
  | change changes =>
    refine ⟨⟨rfl, rfl, rfl⟩, ?_⟩
    obtain ⟨options, executor⟩ := service
    cases executor with
    | none => simp [serve, afterward, SearchOptions.after, Request.changes]
    | some responses => simp [serve, afterward, SearchOptions.after, Request.changes]
  | prepare raw =>
    exact ⟨⟨rfl, rfl, .of_not_returned id⟩, (service.afterward_eq_self rfl).symm⟩
  | search raw =>
    obtain ⟨hsearch, hlast⟩ := service.search_disciplined raw
    exact ⟨hsearch, hlast⟩

/-! ## Runs -/

theorem serveAll_cons (service : Service α) (request : Request) (rest : List Request) :
    service.serveAll (request :: rest) =
      ((service.serve request).1 :: ((service.serve request).2.serveAll rest).1,
        ((service.serve request).2.serveAll rest).2) := rfl

theorem serveAll_append (service : Service α) (requests more : List Request) :
    service.serveAll (requests ++ more) =
      ((service.serveAll requests).1 ++ ((service.serveAll requests).2.serveAll more).1,
        ((service.serveAll requests).2.serveAll more).2) := by
  induction requests generalizing service with
  | nil => rfl
  | cons request rest ih =>
    rw [List.cons_append, serveAll_cons, serveAll_cons, ih]
    rfl

theorem length_serveAll (service : Service α) (requests : List Request) :
    (service.serveAll requests).1.length = requests.length := by
  induction requests generalizing service with
  | nil => rfl
  | cons request rest ih => rw [serveAll_cons, List.length_cons, List.length_cons, ih]

/-- After a run the options are changed as asked for, and a response is gone for each call. -/
theorem serveAll_snd (service : Service α) (requests : List Request) :
    (service.serveAll requests).2 =
      service.afterward requests ((service.serveAll requests).1.flatMap Served.calls) := by
  induction requests generalizing service with
  | nil => exact (service.afterward_eq_self rfl).symm
  | cons request rest ih =>
    have hstep := (service.serve_disciplined request).2
    have hrest := ih (service.serve request).2
    calc (service.serveAll (request :: rest)).2
        = ((service.serve request).2.serveAll rest).2 := rfl
      _ = (service.afterward [request] (service.serve request).1.calls).afterward rest
            (((service.serve request).2.serveAll rest).1.flatMap Served.calls) := by
          rw [hrest, ← hstep]
      _ = service.afterward (request :: rest)
            ((service.serveAll (request :: rest)).1.flatMap Served.calls) := by
          rw [afterward_afterward, serveAll_cons, List.flatMap_cons, List.singleton_append]

/-- In a run every request keeps to the discipline, under the options that the requests before it
lead to and with the first response that the calls before it have left; and it is served, whatever
became of the requests before it. -/
theorem serveAll_disciplined (service : Service α) (before : List Request) (request : Request)
    (after : List Request) : ∃ earlier served later,
      (service.serveAll (before ++ request :: after)).1 = earlier ++ served :: later ∧
      earlier.length = before.length ∧ later.length = after.length ∧
      Disciplined (service.options.after before)
        (service.executor.map (responseAt · (earlier.flatMap Served.calls).length))
        served request := by
  have hreached := service.serveAll_snd before
  obtain ⟨hserved, -⟩ := (service.serveAll before).2.serve_disciplined request
  refine ⟨(service.serveAll before).1, ((service.serveAll before).2.serve request).1,
    (((service.serveAll before).2.serve request).2.serveAll after).1, ?_,
    service.length_serveAll before, length_serveAll _ after, ?_⟩
  · rw [serveAll_append, serveAll_cons]
  · rw [hreached, next_afterward] at hserved
    rw [hreached]
    exact hserved

end Service

end StockQuery
