import StockQuery.Proofs.Brackets

/-!
# Agreement of the commands

The checks of a configuration leave nothing for a search to fail on but its size: its relaxation
and its parameter style are known, every filter that a search string can name is registered, and a
search with terms has a choice for every tier. What they do not bound is the number of quoted terms,
and the exhaustive relaxation nests a call for every term. A command under such a configuration
therefore ends with an exit status if there are enough nested calls for the terms, and is aborted if
not; only the time and the memory that the choices take are not counted. `compile` and `explain`
take different ways to the full-text query and arrive at the same one.
-/

namespace StockQuery

/-! ## Configurations -/

/-- What the checks of a configuration leave open: a known level, a limit above zero, and names that
stand for a relaxation and for a parameter style. -/
structure Config.Sound (config : Config) : Prop where
  /-- The level is one that a configuration may name. -/
  level : config.log.level ∈ configLevels
  /-- At least one term is allowed. -/
  limit : 0 < config.search.maxTerms
  /-- The relaxation exists. -/
  relaxation : ∃ relaxation : Relaxation, config.search.relaxation = relaxation.name
  /-- The parameter style exists. -/
  paramstyle : ∃ style : MarkStyle, config.sql.paramstyle = style.name

/-- A level that passes the check is a known one. -/
theorem LogSettings.level_mem_of_check {log : LogSettings} (h : log.check = .ok ()) :
    log.level ∈ configLevels := by
  rw [LogSettings.check] at h
  split at h
  · cases h
  · next hlevel => exact not_not.1 hlevel

/-- A limit that passes the check is above zero, and a relaxation that does exists. -/
theorem SearchSettings.sound_of_check {search : SearchSettings} (h : search.check = .ok ()) :
    0 < search.maxTerms ∧ ∃ relaxation : Relaxation, search.relaxation = relaxation.name := by
  rw [SearchSettings.check] at h
  split at h
  · cases h
  next hlimit =>
  split at h
  · cases h
  next hname =>
  have hmem : search.relaxation ∈ configRelaxations := not_not.1 hname
  exact ⟨by omega, Relaxation.exists_name_eq hmem⟩

/-- A parameter style that passes the check exists. -/
theorem SqlSettings.paramstyle_of_check {sql : SqlSettings} (h : sql.check = .ok ()) :
    ∃ style : MarkStyle, sql.paramstyle = style.name := by
  rw [SqlSettings.check] at h
  split at h
  · cases h
  next hname =>
  obtain ⟨style, -, hstyle⟩ := List.mem_map.1 (not_not.1 hname)
  exact ⟨style, hstyle.symm⟩

/-- A configuration that was read and checked is sound. -/
theorem Config.sound_of_read {envLevel : Option String} {root : Section} {config : Config}
    (h : read envLevel root = .ok config) : config.Sound := by
  obtain ⟨log, -, h⟩ := exists_of_bind_eq_ok h
  obtain ⟨search, -, h⟩ := exists_of_bind_eq_ok h
  obtain ⟨sql, -, h⟩ := exists_of_bind_eq_ok h
  obtain ⟨_, hlog, h⟩ := exists_of_bind_eq_ok h
  obtain ⟨_, hsearch, h⟩ := exists_of_bind_eq_ok h
  obtain ⟨_, hsql, h⟩ := exists_of_bind_eq_ok h
  obtain rfl : Config.mk log search sql = config := Except.ok.inj h
  obtain ⟨hlimit, hrelaxation⟩ := SearchSettings.sound_of_check hsearch
  exact ⟨LogSettings.level_mem_of_check hlog, hlimit, hrelaxation,
    SqlSettings.paramstyle_of_check hsql⟩

/-! ## Preparing a search -/

/-- A full-text query starts with its opening. -/
theorem TextQuery.exists_ofClauses (negations : List String) (clauses : List Clause) :
    ∃ rest, ofClauses negations clauses = opening ++ rest :=
  ⟨_, String.append_assoc⟩

/-- A search string has a normal form only if it is accepted. -/
theorem NormalQuery.parse_of_rejection {limit : Option Int} {raw : String} {rejection : Rejection}
    (h : Search.parse filterNames limit raw = .error rejection) :
    parse limit raw = .error rejection := by
  rw [parse, h]
  rfl

/-- A known relaxation does not fail on a search tree. There is a full-text query if there are
terms. -/
theorem NormalQuery.exists_textQuery (relaxation : Relaxation) (tree : Tree) :
    ∃ textQuery, (ofTree tree).textQuery relaxation.name = .ok textQuery ∧
      ∀ text, textQuery = some text → ∃ rest, text = TextQuery.opening ++ rest := by
  by_cases hterms : (ofTree tree).terms = []
  · refine ⟨none, ?_, by simp⟩
    rw [textQuery, Relaxation.ofName_name]
    show TextQuery.ofNormal relaxation (ofTree tree) = _
    rw [TextQuery.ofNormal, hterms]
    rfl
  · refine ⟨_, textQuery_eq hterms (relaxation.choices_alternatives tree.wanted), ?_⟩
    rintro text ⟨⟩
    exact TextQuery.exists_ofClauses _ _

/-- The statement for a full-text query, if there is one, has it as its first parameter. -/
inductive Statement.Binds : Option String → Option Statement → Prop where
  /-- Without a full-text query there is no statement. -/
  | nothing : Binds none none
  /-- A full-text query is bound to the first mark. -/
  | text (rest sql : String) (more : List String) :
    Binds (some (TextQuery.opening ++ rest)) (some ⟨sql, (TextQuery.opening ++ rest) :: more⟩)

namespace SearchOptions

variable {raw : String}

/-- A rejected search string is rejected under every relaxation and parameter style. -/
theorem prepare_of_rejection {options : SearchOptions} {rejection : Rejection}
    (h : Search.parse filterNames options.maxTerms raw = .error rejection) :
    options.prepare raw = .error (.rejected rejection) := by
  rw [prepare, RankedQuery.parse, NormalQuery.parse_of_rejection h]
  rfl

/-- An accepted search string fails as its full-text query does. -/
theorem prepare_of_textQuery_error {options : SearchOptions} {tree : Tree} {failure : Failure}
    (h : Search.parse filterNames options.maxTerms raw = .ok tree)
    (htext : (NormalQuery.ofTree tree).textQuery options.relaxation = .error failure) :
    options.prepare raw = .error (.failed failure) := by
  have hparse : RankedQuery.parse options.maxTerms options.relaxation raw =
      .error (.failed failure) := by
    rw [RankedQuery.parse, NormalQuery.parse_of_tree h]
    show (((NormalQuery.ofTree tree).textQuery options.relaxation).mapError Refusal.failed).bind _
      = _
    rw [htext]
    rfl
  rw [prepare, hparse]
  rfl

/-- An accepted search string with a full-text query fails or succeeds as its statement does. -/
theorem prepare_of_textQuery {options : SearchOptions} {tree : Tree} {textQuery : Option String}
    (h : Search.parse filterNames options.maxTerms raw = .ok tree)
    (htext : (NormalQuery.ofTree tree).textQuery options.relaxation = .ok textQuery) :
    options.prepare raw =
      ((RankedQuery.compile options.paramstyle
        ⟨textQuery, (NormalQuery.ofTree tree).filters⟩).mapError Refusal.failed).map
          (SearchPlan.mk ⟨textQuery, (NormalQuery.ofTree tree).filters⟩) := by
  rw [prepare, RankedQuery.parse_of_tree h htext]
  show ((RankedQuery.compile options.paramstyle _).mapError Refusal.failed).bind _ = _
  cases RankedQuery.compile options.paramstyle ⟨textQuery, (NormalQuery.ofTree tree).filters⟩ with
  | error failure => rfl
  | ok statement => rfl

/-- Under a known relaxation and a known parameter style an accepted search string has a plan, and
its full-text query is the one of the tree. -/
theorem exists_plan (options : SearchOptions) {tree : Tree} {relaxation : Relaxation}
    {style : MarkStyle} (htree : Search.parse filterNames options.maxTerms raw = .ok tree)
    (hrelaxation : options.relaxation = relaxation.name)
    (hstyle : options.paramstyle = style.name) :
    ∃ plan, options.prepare raw = .ok plan ∧
      (NormalQuery.ofTree tree).textQuery options.relaxation = .ok plan.query.textQuery ∧
      Statement.Binds plan.query.textQuery plan.statement := by
  obtain ⟨textQuery, htext, hopening⟩ := NormalQuery.exists_textQuery relaxation tree
  rw [← hrelaxation] at htext
  have hparse := RankedQuery.parse_of_tree htree htext
  have hprepare : ∀ statement,
      RankedQuery.compile options.paramstyle ⟨textQuery, (NormalQuery.ofTree tree).filters⟩ =
        .ok statement →
      options.prepare raw = .ok ⟨⟨textQuery, (NormalQuery.ofTree tree).filters⟩, statement⟩ := by
    intro statement hcompile
    rw [prepare_of_textQuery htree htext, hcompile]
    rfl
  cases textQuery with
  | none => exact ⟨_, hprepare none rfl, htext, .nothing⟩
  | some text =>
    obtain ⟨rest, rfl⟩ := hopening text rfl
    obtain ⟨conditions, hcompile⟩ := RankedQuery.exists_compile style (TextQuery.opening ++ rest)
      (RankedQuery.mem_filterNames_of_parse hparse)
    rw [← hstyle] at hcompile
    exact ⟨_, hprepare _ hcompile, htext, .text rest _ _⟩

end SearchOptions

/-! ## Commands -/

/-- An entry that does not tell of a failure. -/
def LogEntry.IsRoutine (entry : LogEntry) : Prop :=
  entry.level < Level.error ∧ ¬ "Command failed".toList <+: entry.message.toList

/-- The options of the journal for an action. -/
def LogSettings.journalOptions (log : LogSettings) (action : String) : JournalOptions :=
  ⟨log.level, action, log.toFile, log.dir⟩

/-- The entry about a rejected search string tells of no failure, whatever it quotes. -/
theorem isRoutine_rejectedEntry (raw : String) (rejection : Rejection) :
    (rejectedEntry raw rejection).IsRoutine := by
  refine ⟨(by decide : Level.debug < Level.error), ?_⟩
  simp [rejectedEntry]

/-- Nor does the entry about a prepared search. -/
theorem isRoutine_preparedEntry (raw : String) (plan : SearchPlan) :
    (preparedEntry raw plan).IsRoutine := by
  refine ⟨(by decide : Level.debug < Level.error), ?_⟩
  simp [preparedEntry]

/-- Nor does the warning of a command. -/
theorem Command.isRoutine_rejectionWarning (rejection : Rejection) :
    (rejectionWarning rejection).IsRoutine := by
  refine ⟨(by decide : Level.warning < Level.error), ?_⟩
  simp [rejectionWarning]

/-- The levels that a configuration may name can be asked for. -/
theorem Level.exists_ofName {name : String} (h : name ∈ configLevels) :
    name ≠ "" ∧ ∃ level, ofName name = .ok level := by
  simp only [configLevels, List.mem_cons, List.not_mem_nil, or_false] at h
  rcases h with rfl | rfl | rfl | rfl | rfl
  · exact ⟨by decide, critical, by decide +kernel⟩
  · exact ⟨by decide, debug, by decide +kernel⟩
  · exact ⟨by decide, error, by decide +kernel⟩
  · exact ⟨by decide, info, by decide +kernel⟩
  · exact ⟨by decide, warning, by decide +kernel⟩

/-- Nothing but the log file can keep the journal from being configured. -/
theorem Config.Sound.exists_configure {config : Config} (h : config.Sound) {action stamp : String}
    {file : Option String} (hfile : (config.log.journalOptions action).file? stamp = .ok file) :
    ∃ journal,
      Journal.fresh.configure (config.log.journalOptions action) stamp = .ok journal := by
  obtain ⟨hname, level, hlevel⟩ := Level.exists_ofName h.level
  have hconsole : (config.log.journalOptions action).consoleLevel = .ok level := by
    rw [JournalOptions.consoleLevel, LogSettings.journalOptions, if_neg hname, hlevel]
  rw [Journal.configure, hconsole, hfile]
  cases file with
  | none => exact ⟨_, rfl⟩
  | some path => exact ⟨_, rfl⟩

namespace Command

variable {raw : String}

/-- What a command prints about a rejected search string. -/
def rejectionText (rejection : Rejection) : Command → String
  | .compile .text => Report.diagnosis rejection.diagnosis
  | .compile .json => Report.diagnosisJson rejection.diagnosis
  | .explain => Report.diagnosis rejection.diagnosis

/-- What a command prints about an accepted search string, from its normal form and its plan. -/
def acceptanceText (query : NormalQuery) (plan : SearchPlan) : Command → String
  | .compile .text => Report.statement plan.statement
  | .compile .json => Report.preparedJson plan
  | .explain => Report.explanation query plan.query.textQuery

/-- About a rejected search string a command says where it is at fault, and warns of it. -/
theorem run_of_rejection (options : SearchOptions) {rejection : Rejection}
    (h : Search.parse filterNames options.maxTerms raw = .error rejection) (command : Command) :
    ∃ entries, command.run options raw = (.ok ⟨command.rejectionText rejection, false⟩, entries) ∧
      ∀ entry ∈ entries, entry.IsRoutine := by
  have hprepare := SearchOptions.prepare_of_rejection h
  have hnormal := NormalQuery.parse_of_rejection h
  have hwarning := isRoutine_rejectionWarning rejection
  cases command with
  | compile format =>
    refine ⟨[rejectedEntry raw rejection, rejectionWarning rejection], ?_, ?_⟩
    · cases format <;> simp [run, runCompile, hprepare, preparationEntries, rejectionText]
    · simp only [List.forall_mem_cons]
      exact ⟨isRoutine_rejectedEntry raw rejection, hwarning, List.forall_mem_nil _⟩
  | explain =>
    refine ⟨[rejectionWarning rejection], ?_, List.forall_mem_singleton.2 hwarning⟩
    simp [run, runExplain, hnormal, rejectionText]

/-- About an accepted search string a command says what it has found out, and notes nothing else
than that it was prepared. -/
theorem run_of_plan (options : SearchOptions) {tree : Tree} {plan : SearchPlan}
    (h : Search.parse filterNames options.maxTerms raw = .ok tree)
    (hplan : options.prepare raw = .ok plan)
    (htext : (NormalQuery.ofTree tree).textQuery options.relaxation = .ok plan.query.textQuery)
    (command : Command) :
    ∃ entries, command.run options raw =
        (.ok ⟨command.acceptanceText (NormalQuery.ofTree tree) plan, true⟩, entries) ∧
      ∀ entry ∈ entries, entry.IsRoutine := by
  have hnormal := NormalQuery.parse_of_tree h
  cases command with
  | compile format =>
    refine ⟨[preparedEntry raw plan], ?_,
      List.forall_mem_singleton.2 (isRoutine_preparedEntry raw plan)⟩
    cases format <;> simp [run, runCompile, hplan, preparationEntries, acceptanceText]
  | explain =>
    refine ⟨[], ?_, List.forall_mem_nil _⟩
    simp [run, runExplain, hnormal, htext, acceptanceText]

/-- With enough nested calls a command is carried out as if they had no end. -/
theorem runWithin_of_fits {options : SearchOptions} {calls : Nat}
    (h : options.fits calls raw = true) (command : Command) :
    command.runWithin calls options raw = command.run options raw :=
  if_pos h

/-- With too few nested calls a command fails before it has noted anything. -/
theorem runWithin_of_not_fits {options : SearchOptions} {calls : Nat}
    (h : ¬ options.fits calls raw = true) (command : Command) :
    command.runWithin calls options raw = (.error .tooDeep, []) :=
  if_neg h

section Perform

variable {log : LogSettings} {options : SearchOptions} {occasion : Occasion} {command : Command}
  {entries : List LogEntry} {journal : Journal}

/-- A command that prints something ends with an exit status, and the journal has its entries. -/
theorem perform_of_printout {printout : Printout}
    (hrun : command.runWithin occasion.calls options raw = (.ok printout, entries))
    (hjournal : Journal.fresh.configure (log.journalOptions occasion.action) occasion.stamp =
      .ok journal) :
    command.perform log options occasion raw =
      .ok ⟨.ok (if printout.accepted then 0 else 2),
        Text.forOutput occasion.terminal (printout.text ++ "\n"), journal.recordAll entries⟩ := by
  rw [LogSettings.journalOptions] at hjournal
  simp only [perform, hjournal, hrun]
  rfl

/-- A command that fails prints nothing, and the journal has one more entry. -/
theorem perform_of_failure {failure : Failure}
    (hrun : command.runWithin occasion.calls options raw = (.error failure, entries))
    (hjournal : Journal.fresh.configure (log.journalOptions occasion.action) occasion.stamp =
      .ok journal) :
    command.perform log options occasion raw =
      .ok ⟨.error failure, "", (journal.recordAll entries).record
        ⟨Level.error, "Command failed: " ++ failure.message⟩⟩ := by
  rw [LogSettings.journalOptions] at hjournal
  simp only [perform, hjournal, hrun]
  rfl

end Perform

end Command

/-! ## Both commands -/

/-- The exit status that a search string asks for under a configuration. -/
def Config.exitStatus (config : Config) (raw : String) : Nat :=
  match Search.parse filterNames (some config.search.maxTerms) raw with
  | .error _ => 2
  | .ok _ => 0

/-- There are enough nested calls left for the choices of the search string: under the exhaustive
relaxation one for every term, be it quoted or not, and one more. -/
def Config.Fits (config : Config) (calls : Nat) (raw : String) : Prop :=
  ∀ tree : Tree, Search.parse filterNames (some config.search.maxTerms) raw = .ok tree →
    tree.wanted ≠ [] → config.search.relaxation = Relaxation.exhaustive.name →
      tree.wanted.length < calls

/-- What is said of a search string that is rejected fits in any case. -/
theorem SearchOptions.fits_of_rejection {options : SearchOptions} {raw : String}
    {rejection : Rejection}
    (h : Search.parse filterNames options.maxTerms raw = .error rejection) (calls : Nat) :
    options.fits calls raw = true := by
  rw [fits, NormalQuery.parse_of_rejection h]

/-- A search without terms fits in any case, and one with terms as its relaxation says. -/
theorem SearchOptions.fits_of_tree {options : SearchOptions} {raw : String} {tree : Tree}
    {relaxation : Relaxation} (h : Search.parse filterNames options.maxTerms raw = .ok tree)
    (hrelaxation : options.relaxation = relaxation.name) (calls : Nat) :
    options.fits calls raw = true ↔
      (tree.wanted ≠ [] → relaxation = .exhaustive → tree.wanted.length < calls) := by
  have hname : Relaxation.ofName? options.relaxation = some relaxation := by
    rw [hrelaxation]
    cases relaxation <;> decide
  have halternatives : ∀ alternatives ∈ (NormalQuery.ofTree tree).terms, alternatives ≠ [] := by
    intro alternatives hmem
    obtain ⟨t, -, rfl⟩ := List.mem_map.1 hmem
    exact t.alternatives_ne_nil
  have hterms : (NormalQuery.ofTree tree).terms = tree.wanted.map Term.alternatives := rfl
  rw [fits, NormalQuery.parse_of_tree h, hname]
  simp only [Bool.or_eq_true, Relaxation.fits_iff halternatives]
  rw [hterms, List.isEmpty_iff, List.map_eq_nil_iff, List.length_map]
  tauto

namespace Config.Sound

variable {config : Config} {raw : String}

/-- An accepted search string has a plan with the full-text query of its tree. -/
theorem exists_plan {tree : Tree} (h : config.Sound)
    (htree : Search.parse filterNames (some config.search.maxTerms) raw = .ok tree) :
    ∃ plan, config.searchOptions.prepare raw = .ok plan ∧
      (NormalQuery.ofTree tree).textQuery config.search.relaxation = .ok plan.query.textQuery ∧
      Statement.Binds plan.query.textQuery plan.statement := by
  obtain ⟨relaxation, hrelaxation⟩ := h.relaxation
  obtain ⟨style, hstyle⟩ := h.paramstyle
  exact config.searchOptions.exists_plan htree hrelaxation hstyle

/-- The program finds out whether there are enough nested calls. -/
theorem fits_iff (h : config.Sound) (calls : Nat) (raw : String) :
    config.searchOptions.fits calls raw = true ↔ config.Fits calls raw := by
  cases hparse : Search.parse filterNames (some config.search.maxTerms) raw with
  | error rejection =>
    have hfits : config.searchOptions.fits calls raw = true :=
      SearchOptions.fits_of_rejection hparse calls
    simp [hfits, Fits, hparse]
  | ok tree =>
    obtain ⟨relaxation, hrelaxation⟩ := h.relaxation
    have hname : config.search.relaxation = Relaxation.exhaustive.name ↔
        relaxation = .exhaustive := by
      rw [hrelaxation]
      cases relaxation <;> decide
    rw [SearchOptions.fits_of_tree hparse hrelaxation, Fits]
    simp [hparse, hname]

/-- A command that has a text to print prints it if there are enough nested calls, and is aborted if
not. -/
theorem perform_eq (h : config.Sound) {command : Command} {text : String} {accepted : Bool}
    {entries : List LogEntry}
    (hrun : command.run config.searchOptions raw = (.ok ⟨text, accepted⟩, entries))
    (hstatus : (if accepted then 0 else 2) = config.exitStatus raw)
    {occasion : Command.Occasion} {file : Option String}
    (hfile : (config.log.journalOptions occasion.action).file? occasion.stamp = .ok file) :
    ∃ journal, Journal.fresh.configure (config.log.journalOptions occasion.action)
        occasion.stamp = .ok journal ∧
      (config.Fits occasion.calls raw →
        command.perform config.log config.searchOptions occasion raw =
          .ok ⟨.ok (config.exitStatus raw), Text.forOutput occasion.terminal (text ++ "\n"),
            journal.recordAll entries⟩) ∧
      (¬ config.Fits occasion.calls raw →
        command.perform config.log config.searchOptions occasion raw =
          .ok ⟨.error .tooDeep, "", journal.record
            ⟨Level.error, "Command failed: maximum recursion depth exceeded"⟩⟩) := by
  obtain ⟨journal, hjournal⟩ := h.exists_configure hfile
  refine ⟨journal, hjournal, fun hfits => ?_, fun hfits => ?_⟩
  · have hwithin := Command.runWithin_of_fits ((h.fits_iff occasion.calls raw).2 hfits) command
    rw [Command.perform_of_printout (hwithin.trans hrun) hjournal, ← hstatus]
  · have hwithin := Command.runWithin_of_not_fits
      (mt (h.fits_iff occasion.calls raw).1 hfits) command
    rw [Command.perform_of_failure hwithin hjournal]
    rfl

end Config.Sound

/-- Quoted terms with a space between any two are read as these terms, whatever the limit is. -/
theorem Search.parse_quoted_terms (limit : Option Int) {n : Nat} (hn : 0 < n) :
    parse filterNames limit (String.intercalate " " (List.replicate n "\"a\"")) =
      .ok (List.replicate n (.term ⟨"a", true, false⟩)) := by
  obtain ⟨l, hspells, htext⟩ :=
    Layout.exists_spells (List.replicate n (Node.term ⟨"a", true, false⟩))
  have hspelling : l.text = [' '].intercalate (List.replicate n "\"a\"".toList) := by
    rw [htext, Tree.spelling, List.map_replicate]
    rfl
  have hraw : String.intercalate " " (List.replicate n "\"a\"") = String.ofList l.text := by
    have hchars : (String.ofList l.text).toList = l.text := String.toList_ofList
    apply String.toList_inj.1
    rw [hchars, hspelling, String.toList_intercalate, List.map_replicate]
    rfl
  have hformed : ∀ node ∈ List.replicate n (Node.term ⟨"a", true, false⟩),
      node.WellFormed filterNames := by
    intro node hnode
    rw [List.eq_of_mem_replicate hnode]
    show IsQuotable "a".toList
    exact ⟨by decide, by decide⟩
  have hfirst : (Node.term ⟨"a", true, false⟩) ∈ List.replicate n (Node.term ⟨"a", true, false⟩) :=
    List.mem_replicate.2 ⟨hn.ne', rfl⟩
  have hblank := hspells.not_allBlank ⟨_, hfirst, 'a', by decide, by decide⟩
  rw [hraw, parse_eq_ok_iff_of_limit]
  refine ⟨hspells.parse_eq isLetterName_of_mem_filterNames hformed hblank, fun m _ => ?_⟩
  rw [List.countP_replicate]
  exact Nat.zero_le _

/-- Under a configuration that was read and checked no command fails on anything but the number of
terms, and the commands agree. Each of them has a text for the search string. With enough nested
calls for the terms it prints this text, notes no failure, and ends with status 2 if the search
string is rejected and with status 0 if not; with too few it prints nothing, notes the failure, and
is aborted. Of all that the journal needs only the log file can be missing. The text is printed as
it stands to a terminal and elsewhere, unless it is about a rejected search string and has the
escape character in it. About a rejected search string `compile` and `explain` print the same text.
Of an accepted one `explain` shows the full-text query that is the first parameter of the statement
of `compile`, or `(none)` if and only if there is no statement. -/
theorem commands_agree {envLevel : Option String} {root : Section} {config : Config}
    (h : Config.read envLevel root = .ok config) (raw : String) :
    ∃ text : Command → String,
      (∀ command : Command, ∃ entries : List LogEntry, (∀ entry ∈ entries, entry.IsRoutine) ∧
        ∀ (occasion : Command.Occasion) (file : Option String),
          (config.log.journalOptions occasion.action).file? occasion.stamp = .ok file →
          ∃ journal, Journal.fresh.configure (config.log.journalOptions occasion.action)
              occasion.stamp = .ok journal ∧
            (config.Fits occasion.calls raw →
              command.perform config.log config.searchOptions occasion raw =
                .ok ⟨.ok (config.exitStatus raw),
                  Text.forOutput occasion.terminal (text command ++ "\n"),
                  journal.recordAll entries⟩) ∧
            (¬ config.Fits occasion.calls raw →
              command.perform config.log config.searchOptions occasion raw =
                .ok ⟨.error .tooDeep, "", journal.record
                  ⟨Level.error, "Command failed: maximum recursion depth exceeded"⟩⟩)) ∧
      (∀ (terminal : Bool) (command : Command),
        terminal = true ∨ '\x1b' ∉ (text command).toList ∨ config.exitStatus raw = 0 →
        Text.forOutput terminal (text command ++ "\n") = text command ++ "\n") ∧
      (∀ rejection, Search.parse filterNames (some config.search.maxTerms) raw = .error rejection →
        text (.compile .text) =
          "Invalid search: " ++ rejection.summary ++ "\n  " ++ rejection.fragment ++ "\n  ^" ∧
        text .explain = text (.compile .text) ∧
        text (.compile .json) =
          "\x7b\"error\": \x7b\"message\": " ++ Document.quoteText rejection.fault.message ++
          ", \"position\": " ++ toString (rejection.position : Int) ++ ", \"fragment\": " ++
          Document.quoteText rejection.fragment ++ "\x7d\x7d") ∧
      ∀ tree, Search.parse filterNames (some config.search.maxTerms) raw = .ok tree →
        ∃ plan shown, config.searchOptions.prepare raw = .ok plan ∧
          text .explain =
            Report.listing (NormalQuery.ofTree tree) ++ "\ntext query:\n" ++ ("  " ++ shown) ∧
          (shown = "(none)" ↔ plan.statement = none) ∧
          (plan.statement = none →
            text (.compile .text) = "(no statement: nothing to search for)" ∧
            text (.compile .json) =
              "\x7b\n  \"text_query\": null,\n  \"filters\": " ++
              (Report.filtersDocument plan.query.filters).indented 1 ++
              ",\n  \"sql\": null,\n  \"params\": []\n\x7d") ∧
          ∀ statement, plan.statement = some statement → ∃ more,
            statement.params = shown :: more ∧
            text (.compile .text) =
              statement.sql ++ "\n\nparams:\n  1: " ++ shown ++
              String.join (more.mapIdx fun index param =>
                "\n  " ++ toString (index + 2) ++ ": " ++ param) ∧
            text (.compile .json) =
              "\x7b\n  \"text_query\": " ++ Document.quoteText shown ++ ",\n  \"filters\": " ++
              (Report.filtersDocument plan.query.filters).indented 1 ++ ",\n  \"sql\": " ++
              Document.quoteText statement.sql ++ ",\n  \"params\": [\n    " ++
              Document.quoteText shown ++
              String.join (more.map fun param => ",\n    " ++ Document.quoteText param) ++
              "\n  ]\n\x7d" := by
  have hsound := Config.sound_of_read h
  cases hparse : Search.parse filterNames (some config.search.maxTerms) raw with
  | error rejection =>
    refine ⟨Command.rejectionText rejection, fun command => ?_, ?_, ?_, nofun⟩
    · obtain ⟨entries, hrun, hroutine⟩ :=
        Command.run_of_rejection config.searchOptions hparse command
      have hstatus : (if false then 0 else 2) = config.exitStatus raw := by
        rw [Config.exitStatus, hparse]
        rfl
      exact ⟨entries, hroutine, fun occasion file => hsound.perform_eq hrun hstatus⟩
    · rintro terminal command (hterminal | hescape | hstatus)
      · exact Text.forOutput_line (.inl hterminal)
      · exact Text.forOutput_line (.inr hescape)
      · rw [Config.exitStatus, hparse] at hstatus
        cases hstatus
    · rintro _ ⟨⟩
      exact ⟨rfl, rfl, Report.diagnosisJson_eq rejection.diagnosis⟩
  | ok tree =>
    obtain ⟨plan, hplan, htext, hbinds⟩ := hsound.exists_plan hparse
    have hruns := Command.run_of_plan config.searchOptions hparse hplan htext
    refine ⟨Command.acceptanceText (NormalQuery.ofTree tree) plan, fun command => ?_, ?_, nofun, ?_⟩
    · obtain ⟨entries, hrun, hroutine⟩ := hruns command
      have hstatus : (if true then 0 else 2) = config.exitStatus raw := by
        rw [Config.exitStatus, hparse]
        rfl
      exact ⟨entries, hroutine, fun occasion file => hsound.perform_eq hrun hstatus⟩
    · intro terminal command _
      obtain ⟨_, hrun, -⟩ := hruns command
      exact Command.forOutput_of_accepted hrun terminal
    · rintro _ ⟨⟩
      have hexplain := Report.explanation_eq (NormalQuery.ofTree tree) plan.query.textQuery
      obtain ⟨⟨textQuery, filters⟩, statement⟩ := plan
      cases hbinds with
      | nothing =>
        refine ⟨_, "(none)", hplan, hexplain, by simp, fun _ => ⟨rfl, ?_⟩, nofun⟩
        exact Report.preparedJson_nothing filters
      | text rest sql more =>
        rw [Report.textQueryLine_opening] at hexplain
        refine ⟨_, TextQuery.opening ++ rest, hplan, hexplain, ?_, nofun, ?_⟩
        · have hnone : TextQuery.opening ++ rest ≠ "(none)" :=
            TextQuery.opening_append_ne rest (by decide)
          simp [hnone]
        · rintro _ ⟨⟩
          exact ⟨more, rfl, Report.statement_some sql _ more,
            Report.preparedJson_some filters sql _ more⟩

/-- Names in any letter case and between blanks are names of what they stand for: with a limit of
one term two are turned down by both commands alike, and one is looked for, for which two nested
calls are enough. -/
theorem commands_agree_loose_names :
    ∃ config, Config.read (some " warning ") [("log", .map [("to_file", .bool true)]),
        ("search", .map [("max_terms", .int 1), ("relaxation", .text " Exhaustive\n")]),
        ("sql", .map [("paramstyle", .text "NUMERIC")])] = .ok config ∧
      (∃ finished, (Command.compile .json).perform config.log config.searchOptions
        ⟨"compile", "0102030405", false, 0⟩ "bolt nut" = .ok finished ∧
        finished.status.toOption = some 2) ∧
      (∃ finished, Command.explain.perform config.log config.searchOptions
        ⟨"explain", "0102030405", false, 2⟩ "bolt" = .ok finished ∧
        finished.status.toOption = some 0 ∧
        ∃ plan shown, config.searchOptions.prepare "bolt" = .ok plan ∧
          (shown = "(none)" ↔ plan.statement = none) ∧
          finished.stdout = Report.listing ⟨[["\x7bbolt\x7d", "%bolt%"]], [], []⟩ ++
            "\ntext query:\n" ++ ("  " ++ shown) ++ "\n") ∧
      ∃ finished, Command.explain.perform config.log config.searchOptions
        ⟨"explain", "0102030405", true, 1⟩ "bolt" = .ok finished ∧
        finished.status.toOption = none := by
  have hread : Config.read (some " warning ") [("log", .map [("to_file", .bool true)]),
      ("search", .map [("max_terms", .int 1), ("relaxation", .text " Exhaustive\n")]),
      ("sql", .map [("paramstyle", .text "NUMERIC")])] =
        .ok ⟨⟨"WARNING", true, "log"⟩, ⟨1, "exhaustive"⟩, ⟨"numeric"⟩⟩ := by decide +kernel
  have hrejected : Search.parse filterNames (some 1) "bolt nut" =
      .error ⟨.tooManyTerms 1, 5, "nut"⟩ := by decide +kernel
  have haccepted : Search.parse filterNames (some 1) "bolt" =
      .ok [.term ⟨"bolt", false, false⟩] := by decide +kernel
  refine ⟨_, hread, ?_, ?_, ?_⟩
  · obtain ⟨_, hall, -⟩ := commands_agree hread "bolt nut"
    obtain ⟨_, -, hperform⟩ := hall (.compile .json)
    obtain ⟨_, -, hdone, -⟩ := hperform ⟨"compile", "0102030405", false, 0⟩ _ rfl
    refine ⟨_, hdone fun tree htree => ?_, ?_⟩
    · cases hrejected.symm.trans htree
    show some (Config.exitStatus _ "bolt nut") = some 2
    rw [Config.exitStatus, hrejected]
  · obtain ⟨text, hall, hprinted, -, haccept⟩ := commands_agree hread "bolt"
    obtain ⟨_, -, hperform⟩ := hall .explain
    obtain ⟨_, -, hdone, -⟩ := hperform ⟨"explain", "0102030405", false, 2⟩ _ rfl
    obtain ⟨plan, shown, hplan, hexplain, hnone, -⟩ := haccept _ haccepted
    have hstatus : Config.exitStatus ⟨⟨"WARNING", true, "log"⟩, ⟨1, "exhaustive"⟩, ⟨"numeric"⟩⟩
        "bolt" = 0 := by
      rw [Config.exitStatus, haccepted]
    refine ⟨_, hdone fun tree htree _ _ => ?_, ?_, plan, shown, hplan, hnone, ?_⟩
    · cases haccepted.symm.trans htree
      decide
    · exact congrArg some hstatus
    · show Text.forOutput false (text .explain ++ "\n") = _
      rw [hprinted false .explain (.inr (.inr hstatus)), hexplain]
      rfl
  · obtain ⟨_, hall, -⟩ := commands_agree hread "bolt"
    obtain ⟨_, -, hperform⟩ := hall .explain
    obtain ⟨_, -, -, hdone⟩ := hperform ⟨"explain", "0102030405", true, 1⟩ _ rfl
    refine ⟨_, hdone fun hfits => ?_, rfl⟩
    exact absurd (hfits _ haccepted (by decide) rfl) (by decide)

/-- Under the default settings a thousand quoted terms are a search string like any other, and yet a
thousand nested calls are too few for either command. -/
theorem quoted_terms_abort_commands :
    let raw := String.intercalate " " (List.replicate 1000 "\"a\"")
    ∃ config, Config.read none Config.defaults = .ok config ∧
      (∃ tree, Search.parse filterNames (some config.search.maxTerms) raw = .ok tree) ∧
      ∀ command : Command, ∃ journal : Journal,
        command.perform config.log config.searchOptions
            ⟨command.name, "0102030405", false, 1000⟩ raw =
          .ok ⟨.error .tooDeep, "", journal.record
            ⟨Level.error, "Command failed: maximum recursion depth exceeded"⟩⟩ := by
  intro raw
  have hread : Config.read none Config.defaults =
      .ok ⟨⟨"INFO", false, "log"⟩, ⟨10, "exhaustive"⟩, ⟨"qmark"⟩⟩ := rfl
  have hparse := Search.parse_quoted_terms (some 10) (n := 1000) (by decide)
  refine ⟨_, hread, ⟨_, hparse⟩, fun command => ?_⟩
  have hsound := Config.sound_of_read hread
  have hfile : JournalOptions.file? ⟨"INFO", command.name, false, "log"⟩ "0102030405" =
      .ok none := rfl
  obtain ⟨journal, hjournal⟩ := hsound.exists_configure hfile
  have hwanted : Tree.wanted (List.replicate 1000 (.term ⟨"a", true, false⟩)) =
      List.replicate 1000 ⟨"a", true, false⟩ :=
    List.filterMap_replicate_of_some (f := Node.wanted?) rfl
  have hlength : (Tree.wanted (List.replicate 1000 (.term ⟨"a", true, false⟩))).length = 1000 := by
    rw [hwanted, List.length_replicate]
  refine ⟨_, Command.perform_of_failure
    (Command.runWithin_of_not_fits (fun hfits => ?_) command) hjournal⟩
  have hterms := List.ne_nil_of_length_pos (by rw [hlength]; decide)
  have hlt := (hsound.fits_iff 1000 raw).1 hfits _ hparse hterms rfl
  rw [hlength] at hlt
  exact Nat.lt_irrefl _ hlt

end StockQuery
