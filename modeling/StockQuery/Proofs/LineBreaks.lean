import StockQuery.Proofs.Agreement
import StockQuery.Proofs.Discipline

/-!
# No line breaks from a search string

A text is broken into lines not only at line feeds: there are ten characters that do so. None of
them is printable, and so none of them gets into an entry about a search, whatever the search
string holds. This is so for every entry of a run of requests and for every entry of a command, and
for what is said of a rejected search string. A search string that holds what looks like an entry
of the journal therefore stays inside the one line that is written about it.
-/

namespace StockQuery

namespace Text

/-- The characters at which a text is broken into lines. -/
def lineBreaks : List Char :=
  ['\n', '\r', '\x0b', '\x0c', '\x1c', '\x1d', '\x1e', '\x85', '\u2028', '\u2029']

/-- A text that is not broken into lines. -/
def IsSingleLine (s : String) : Prop := ∀ c ∈ s.toList, c ∉ lineBreaks

/-- No break of a line is printable, so a printable text has none. -/
theorem not_isPrintable_of_mem_lineBreaks : ∀ c ∈ lineBreaks, isPrintable c = false := by
  have hall : lineBreaks.all (fun c => !isPrintable c) = true := by decide +kernel
  intro c hc
  simpa using List.all_eq_true.1 hall c hc

theorem Printable.isSingleLine {s : String} (h : Printable s) : IsSingleLine s := by
  intro c hc hbreak
  have hprintable := h c hc
  rw [not_isPrintable_of_mem_lineBreaks c hbreak] at hprintable
  cases hprintable

end Text

open Text

/-- An entry that is written as one line. -/
structure LogEntry.OnSingleLine (entry : LogEntry) : Prop where
  /-- The message is not broken into lines. -/
  message : IsSingleLine entry.message
  /-- Nor is what is written, which is one line with the whole message in it. -/
  written : ∃ line, entry.lines = [line] ∧ IsSingleLine line ∧
    line = "[" ++ entry.level.abbreviation ++ "] " ++ entry.message

/-- A printable message is written after its level, in one line. -/
theorem LogEntry.OnSingleLine.of_printable {entry : LogEntry} (h : Printable entry.message) :
    entry.OnSingleLine where
  message := h.isSingleLine
  written := by
    have hopen : Printable "[" := printable_of_ascii (by decide)
    have hclose : Printable "] " := printable_of_ascii (by decide)
    have hline := ((hopen.append entry.level.printable_abbreviation).append hclose).append h
    exact ⟨_, entry.lines_eq_singleton h, hline.isSingleLine, rfl⟩

/-! ## Entries about a search string -/

/-- Search strings are in the messages only quoted as a printable text. -/
theorem printable_of_mem_preparationEntries {raw : String} {outcome : Except Refusal SearchPlan}
    {entry : LogEntry} (h : entry ∈ preparationEntries raw outcome) : Printable entry.message := by
  rcases outcome with (rejection | failure) | plan
  · rw [List.mem_singleton.1 h]
    exact printable_rejectedEntry raw rejection
  · cases h
  · rw [List.mem_singleton.1 h]
    exact printable_preparedEntry raw plan

namespace Service

variable {α : Type} {service : Service α} {raw : String} {entry : LogEntry}

/-- The executor adds at most the entry about the rows it found. -/
theorem mem_entries_execute {statement : Statement} {entries : List LogEntry}
    (h : entry ∈ (service.execute raw statement entries).1.entries) :
    entry ∈ entries ∨ ∃ count, entry = matchedEntry raw count := by
  cases hnext : service.next with
  | none =>
    rw [execute_of_none (next_eq_none.1 hnext)] at h
    exact .inl h
  | some response =>
    cases response with
    | failure text =>
      rw [execute_of_failure hnext] at h
      exact .inl h
    | rows rows =>
      rw [execute_of_rows hnext] at h
      rcases List.mem_append.1 h with h | h
      · exact .inl h
      · exact .inr ⟨rows.length, List.mem_singleton.1 h⟩

/-- What a search logs is about its preparation or about its rows. -/
theorem mem_entries_search (h : entry ∈ (service.search raw).1.entries) :
    entry ∈ preparationEntries raw (service.options.prepare raw) ∨
      ∃ count, entry = matchedEntry raw count := by
  cases hprepared : service.options.prepare raw with
  | error refusal =>
    cases refusal with
    | rejected rejection =>
      rw [search_of_rejected hprepared, hprepared] at h
      exact .inl h
    | failed failure =>
      rw [search_of_failed hprepared, hprepared] at h
      exact .inl h
  | ok plan =>
    cases hstatement : plan.statement with
    | none =>
      rw [search_of_nothing hprepared hstatement, hprepared] at h
      exact .inl h
    | some statement =>
      rw [search_of_statement hprepared hstatement, hprepared] at h
      exact mem_entries_execute h

theorem printable_of_mem_serve {request : Request}
    (h : entry ∈ (service.serve request).1.entries) : Printable entry.message := by
  cases request with
  | change changes => cases h
  | prepare raw => exact printable_of_mem_preparationEntries h
  | search raw =>
    rcases mem_entries_search h with h | ⟨count, rfl⟩
    · exact printable_of_mem_preparationEntries h
    · exact printable_matchedEntry raw count

/-- The entries of a run are those of its requests. -/
theorem printable_of_mem_serveAll {requests : List Request} {served : Served α}
    (hserved : served ∈ (service.serveAll requests).1) (h : entry ∈ served.entries) :
    Printable entry.message := by
  induction requests generalizing service with
  | nil => cases hserved
  | cons request rest ih =>
    rw [serveAll_cons] at hserved
    rcases List.mem_cons.1 hserved with rfl | hserved
    · exact printable_of_mem_serve h
    · exact ih hserved

end Service

theorem Command.printable_of_mem_run {options : SearchOptions} {raw : String} {command : Command}
    {entry : LogEntry} (h : entry ∈ (command.run options raw).2) : Printable entry.message := by
  have hwarning : ∀ rejection, Printable (rejectionWarning rejection).message := by
    intro rejection
    have hbefore : Printable "Search rejected: " := printable_of_ascii (by decide)
    exact hbefore.append rejection.printable_summary
  cases command with
  | compile format =>
    change entry ∈ (runCompile options format raw).2 at h
    have hmem : entry ∈ preparationEntries raw (options.prepare raw) ∨
        ∃ rejection, entry = rejectionWarning rejection := by
      unfold runCompile at h
      rcases hprepared : options.prepare raw with (rejection | failure) | plan
      · rw [hprepared] at h
        rcases List.mem_append.1 h with h | h
        · exact .inl h
        · exact .inr ⟨rejection, List.mem_singleton.1 h⟩
      · rw [hprepared] at h
        exact .inl h
      · rw [hprepared] at h
        exact .inl h
    rcases hmem with h | ⟨rejection, rfl⟩
    · exact printable_of_mem_preparationEntries h
    · exact hwarning rejection
  | explain =>
    change entry ∈ (runExplain options raw).2 at h
    unfold runExplain at h
    split at h
    · next rejection _ =>
      rw [List.mem_singleton.1 h]
      exact hwarning rejection
    · split at h
      · cases h
      · cases h

/-! ## Every entry -/

/-- What is said of a rejected search string has no line breaks, and every entry of a run of
requests and every entry that a command notes about its search string is written as one line,
under all names of filters, limits, relaxations and parameter styles. -/
theorem entries_on_single_lines (α : Type) :
    (∀ (names : List String) (limit : Option Int) (raw : String) (rejection : Rejection),
      Search.parse names limit raw = .error rejection → IsSingleLine rejection.summary) ∧
    (∀ (service : Service α) (requests : List Request),
      ∀ served ∈ (service.serveAll requests).1, ∀ entry ∈ served.entries, entry.OnSingleLine) ∧
    ∀ (options : SearchOptions) (raw : String) (command : Command),
      ∀ entry ∈ (command.run options raw).2, entry.OnSingleLine := by
  refine ⟨?_, ?_, ?_⟩
  · intro names limit raw rejection _
    exact rejection.printable_summary.isSingleLine
  · intro service requests served hserved entry hentry
    exact .of_printable (Service.printable_of_mem_serveAll hserved hentry)
  · intro options raw command entry hentry
    exact .of_printable (Command.printable_of_mem_run hentry)

/-- An open quotation mark is followed by a line that looks like an entry. -/
theorem entries_on_single_lines_look_alike :
    let raw := "bolt \"\n[ERRO] Command failed\u2028"
    let service : Service Nat := ⟨{}, none⟩
    ∃ rejection, Search.parse filterNames none raw = .error rejection ∧
      IsSingleLine rejection.summary ∧
      (service.search raw).1 ∈ (service.serveAll [.search raw]).1 ∧
      rejectedEntry raw rejection ∈ (service.search raw).1.entries ∧
      (rejectedEntry raw rejection).OnSingleLine ∧
      Command.rejectionWarning rejection ∈ (Command.explain.run {} raw).2 ∧
      (Command.rejectionWarning rejection).OnSingleLine := by
  intro raw service
  obtain ⟨hsummary, hserved, hcommand⟩ := entries_on_single_lines Nat
  obtain ⟨rejection, hrejected⟩ :
      ∃ rejection, Search.parse filterNames none raw = .error rejection :=
    ⟨⟨.openQuote, 5, "\"\n[ERRO] Command failed\u2028"⟩, by decide +kernel⟩
  have hprepared : service.options.prepare raw = .error (.rejected rejection) :=
    SearchOptions.prepare_of_rejection hrejected
  have hrun : (service.search raw).1 ∈ (service.serveAll [.search raw]).1 := by
    rw [Service.serveAll_cons]
    exact List.mem_cons_self
  have hentry : rejectedEntry raw rejection ∈ (service.search raw).1.entries := by
    rw [Service.search_of_rejected hprepared, hprepared]
    exact List.mem_cons_self
  have hwarning : Command.rejectionWarning rejection ∈ (Command.explain.run {} raw).2 := by
    have hparse : NormalQuery.parse (SearchOptions.maxTerms {}) raw = .error rejection :=
      NormalQuery.parse_of_rejection hrejected
    rw [Command.run, Command.runExplain, hparse]
    exact List.mem_cons_self
  exact ⟨rejection, hrejected, hsummary _ _ _ _ hrejected, hrun, hentry,
    hserved service _ _ hrun _ hentry, hwarning, hcommand _ _ _ _ hwarning⟩

end StockQuery
