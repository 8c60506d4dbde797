import StockQuery.Journal

/-!
# Where entries go

A journal is configured again and again, and entries are noted in between. Where an entry goes is
decided by the latest call that took effect and by nothing before it: the console shows what is at
least as grave as this call asks for, with a file beside it or not, and the file takes everything
down to the debug level. The journal's own level is lowered for the file, so that the level of the
console handler alone keeps lesser entries from the console. No call takes back a line.

A call does not take effect if its file cannot be had. Whether the file system opens a file is not
up to the journal, and so a call comes with the answer.
-/

namespace StockQuery

/-! ## Calls -/

namespace JournalOptions

/-- The levels that can be configured, by their names in upper case. -/
def configurable : List (String × Level) :=
  [("CRITICAL", 50), ("DEBUG", 10), ("ERROR", 40), ("INFO", 20), ("WARNING", 30)]

/-- The level that is asked for, if it is one that can be configured. -/
def asked? (options : JournalOptions) : Option Level :=
  if options.level = "" then some 20 else configurable.lookup (Text.upper options.level)

/-- The action keeps a file. -/
def KeepsFile (options : JournalOptions) : Prop := options.toFile = true ∧ options.action ≠ ""

instance (options : JournalOptions) : Decidable options.KeepsFile :=
  inferInstanceAs (Decidable (_ ∧ _))

/-- Nothing keeps the call from taking effect: either it asks for no file, or the path is one, and
the file system opens it. -/
def TakesEffect (options : JournalOptions) (opens : Bool) : Prop :=
  options.KeepsFile → '\x00' ∉ options.dir.toList ++ options.action.toList ∧ opens = true

instance (options : JournalOptions) (opens : Bool) : Decidable (options.TakesEffect opens) :=
  inferInstanceAs (Decidable (_ → _))

/-- The directory of log files. -/
def place (options : JournalOptions) : String := if options.dir = "" then "log" else options.dir

/-- The file of a call at the time `stamp`. -/
def path (options : JournalOptions) (stamp : String) : String :=
  logPath options.place options.action stamp

/-- The name is a single step of a path, as the names of commands are. -/
def IsStep (name : String) : Prop := '/' ∉ name.toList ∧ name ∉ ["", ".", ".."]

variable {options : JournalOptions} {level : Level} {stamp : String} {opens : Bool}

theorem mem_configurable_of_asked? (h : options.asked? = some level) :
    ∃ name, (name, level) ∈ configurable := by
  unfold asked? at h
  split at h
  · exact ⟨"INFO", Option.some.inj h ▸ by decide⟩
  · exact ⟨_, Entries.mem_of_lookup h⟩

theorem debug_le_of_asked? (h : options.asked? = some level) : Level.debug ≤ level := by
  have hbounds : ∀ entry ∈ configurable, Level.debug ≤ entry.2 := by decide
  obtain ⟨name, hname⟩ := mem_configurable_of_asked? h
  exact hbounds _ hname

theorem consoleLevel_of_asked? (h : options.asked? = some level) :
    options.consoleLevel = .ok level := by
  unfold asked? at h
  unfold consoleLevel
  by_cases hempty : options.level = ""
  · rw [if_pos hempty] at h
    have hupper : Text.upper "INFO" = "INFO" := by decide +kernel
    rw [if_pos hempty, ← Option.some.inj h, Level.ofName, hupper]
    rfl
  · rw [if_neg hempty] at h
    rw [if_neg hempty, Level.ofName]
    -- the names that can be configured are not taken, and mean the same level in the longer list
    have hnames : ∀ entry ∈ configurable,
        Level.taken.lookup entry.1 = none ∧ Level.named.lookup entry.1 = some entry.2 := by decide
    obtain ⟨htaken, hnamed⟩ := hnames _ (Entries.mem_of_lookup h)
    rw [htaken, hnamed]
    rfl

theorem file?_of_keepsFile (hfile : options.KeepsFile)
    (hzero : '\x00' ∉ options.dir.toList ++ options.action.toList) (stamp : String) :
    options.file? stamp = .ok (some (options.path stamp)) := by
  unfold file?
  rw [if_pos (show _ ∧ _ from hfile), if_neg hzero]
  rfl

theorem file?_of_not_keepsFile (hfile : ¬ options.KeepsFile) (stamp : String) :
    options.file? stamp = .ok none := by
  unfold file?
  exact if_neg hfile

/-! ## The place of a file -/

theorem place_ne_empty (options : JournalOptions) : options.place ≠ "" := by
  unfold place
  split
  · decide
  · assumption

/-- The file of an action is in the directory of the action, and this one in the directory of log
files, unless the action leads to the root by itself. -/
theorem path_of_not_root (h : options.action.toList.head? ≠ some '/') (stamp : String) :
    options.path stamp = plainPath (options.place ++ "/" ++ options.action ++ "/" ++
      (options.action ++ "_" ++ stamp ++ ".log")) := by
  have hfile : (options.action ++ "_" ++ stamp ++ ".log").toList.head? ≠ some '/' := by
    simp only [String.toList_append]
    cases haction : options.action.toList with
    | nil => simp
    | cons c rest =>
      rw [haction] at h
      exact h
  rw [path, logPath, followPath, followPath, if_neg h, if_neg hfile]

theorem addPathStep_of_isStep {name : String} (h : IsStep name) (steps : List String) :
    addPathStep steps name = steps ++ [name] := by
  obtain ⟨-, hname⟩ := h
  simp only [List.mem_cons, List.not_mem_nil, or_false, not_or] at hname
  obtain ⟨hempty, hdot, hup⟩ := hname
  rw [addPathStep, if_neg (by simp [hempty, hdot]), if_neg fun hback => hup hback.1]

theorem isStep_fileName {name stamp : String} (hname : '/' ∉ name.toList)
    (hstamp : '/' ∉ stamp.toList) : IsStep (name ++ "_" ++ stamp ++ ".log") := by
  refine ⟨by simp [hname, hstamp], fun hmem => ?_⟩
  -- the underscore tells the name from the steps that lead nowhere or up
  have hunderscore : '_' ∈ (name ++ "_" ++ stamp ++ ".log").toList := by simp
  have hnone : ∀ step ∈ ["", ".", ".."], '_' ∉ step.toList := by decide
  exact hnone _ hmem hunderscore

theorem pathSteps_append_step (base : String) {name : String} (h : IsStep name) :
    pathSteps (base ++ "/" ++ name) = pathSteps base ++ [name] := by
  have hsplit : Text.split '/' (base ++ "/" ++ name) = Text.split '/' base ++ [name] := by
    have hlist : (base ++ "/" ++ name).toList = base.toList ++ '/' :: name.toList := by simp
    simp [Text.split, hlist, Text.splitAt_append_sep, Text.splitAt_of_notMem h.1]
  rw [pathSteps, hsplit, List.foldl_append]
  exact addPathStep_of_isStep h _

/-- For an action that is a single step, nothing stands between the directories and the file. -/
theorem path_of_isStep (h : IsStep options.action) (hstamp : '/' ∉ stamp.toList) :
    options.path stamp = (if options.place.toList.head? = some '/' then "/" else "") ++
      String.intercalate "/" (pathSteps options.place ++
        [options.action, options.action ++ "_" ++ stamp ++ ".log"]) := by
  have hroot : options.action.toList.head? ≠ some '/' := fun hhead => h.1 (List.mem_of_head? hhead)
  have hfile := isStep_fileName h.1 hstamp
  have hhead : (options.place ++ "/" ++ options.action ++ "/" ++
      (options.action ++ "_" ++ stamp ++ ".log")).toList.head? = options.place.toList.head? := by
    cases hplace : options.place.toList with
    | nil => exact absurd (String.toList_eq_nil_iff.1 hplace) options.place_ne_empty
    | cons c rest => simp [hplace]
  rw [path_of_not_root hroot, plainPath, hhead, pathSteps_append_step _ hfile,
    pathSteps_append_step _ h, List.append_assoc]
  rfl

end JournalOptions

/-- What happens to a journal. -/
inductive JournalEvent where
  /-- It is to be kept in a way from the time `stamp` on. `opens` says whether the file system opens
  the file, if one is asked for. -/
  | configure (options : JournalOptions) (stamp : String) (opens : Bool)
  /-- An entry is noted. -/
  | note (entry : LogEntry)

/-- An entry, with the latest call before it that took effect. -/
structure NotedEntry where
  /-- What the call asked for. -/
  options : JournalOptions
  /-- When it was made. -/
  stamp : String
  /-- The entry. -/
  entry : LogEntry

namespace NotedEntry

/-- The lines on the console: all of the entry, if it is at least as grave as the call asks for. -/
def onConsole (noted : NotedEntry) : List String :=
  if noted.options.asked?.any (· ≤ noted.entry.level) then noted.entry.lines else []

/-- The lines in the file at `path`: all of the entry, if it is the file of the call and the entry
is not below the debug level. -/
def inFile (noted : NotedEntry) (path : String) : List String :=
  if noted.options.KeepsFile ∧ 10 ≤ noted.entry.level ∧ path = noted.options.path noted.stamp then
    noted.entry.lines
  else []

end NotedEntry

namespace JournalEvent

/-- A call asks for a level that can be configured. -/
def NamesLevel : JournalEvent → Prop
  | configure options _ _ => options.asked? ≠ none
  | note _ => True

/-- The entries of a run, where the latest call before the run is the one with `options` at the time
`stamp`. -/
def noted (options : JournalOptions) (stamp : String) : List JournalEvent → List NotedEntry
  | [] => []
  | note entry :: rest => ⟨options, stamp, entry⟩ :: noted options stamp rest
  | configure later time opens :: rest =>
    if later.TakesEffect opens then noted later time rest else noted options stamp rest

end JournalEvent

/-- The handler is for the console. -/
def Handler.isConsole : Handler → Bool
  | .console _ => true
  | .bareConsole _ => true
  | .file _ _ => false

/-- The handler is for a file. -/
def Handler.isFile : Handler → Bool
  | .console _ => false
  | .bareConsole _ => false
  | .file _ _ => true

namespace Journal

/-- The journal after an event. A call that does not take effect leaves it as it was. -/
def after (journal : Journal) : JournalEvent → Journal
  | .configure options stamp opens =>
    match journal.configure options stamp with
    | .error _ => journal
    | .ok next => if options.KeepsFile ∧ opens = false then journal else next
  | .note entry => journal.record entry

/-- The journal after a run of events. -/
def run (journal : Journal) (events : List JournalEvent) : Journal := events.foldl after journal

theorem run_cons (journal : Journal) (event : JournalEvent) (rest : List JournalEvent) :
    journal.run (event :: rest) = (journal.after event).run rest := rfl

/-- The lines of a file, none if it is not there. -/
def written (journal : Journal) (path : String) : List String :=
  (journal.files.lookup path).getD []

variable {journal next : Journal} {options : JournalOptions} {stamp : String} {opens : Bool}
  {level : Level} {entry : LogEntry}

/-! ## One entry -/

theorem lookup_append (path other : String) (lines : List String)
    (files : List (String × List String)) :
    ((append path lines files).lookup other).getD [] =
      (files.lookup other).getD [] ++ if other = path then lines else [] := by
  by_cases hpath : other = path
  · subst hpath
    rw [append, Entries.lookup_amend_self, if_pos rfl]
    rfl
  · rw [append, Entries.lookup_amend_of_ne hpath, if_neg hpath, List.append_nil]

/-- What a handler shows on the console. -/
def shown (entry : LogEntry) (handler : Handler) : List String :=
  if entry.level < handler.level then []
  else
    match handler with
    | .console _ => entry.lines
    | .bareConsole _ => Text.split '\n' entry.message
    | .file _ _ => []

/-- What a handler writes to a file. -/
def filed (entry : LogEntry) (path : String) (handler : Handler) : List String :=
  if entry.level < handler.level then []
  else
    match handler with
    | .console _ => []
    | .bareConsole _ => []
    | .file _ other => if path = other then entry.lines else []

@[simp]
theorem shown_file (entry : LogEntry) (level : Level) (path : String) :
    shown entry (.file level path) = [] := ite_self []

@[simp]
theorem filed_console (entry : LogEntry) (path : String) (level : Level) :
    filed entry path (.console level) = [] := ite_self []

theorem deliver_eq (journal : Journal) (entry : LogEntry) (handler : Handler) :
    (deliver entry journal handler).level = journal.level ∧
      (deliver entry journal handler).handlers = journal.handlers ∧
      (deliver entry journal handler).console = journal.console ++ shown entry handler ∧
      ∀ path, (deliver entry journal handler).written path =
        journal.written path ++ filed entry path handler := by
  unfold deliver shown filed
  by_cases hlow : entry.level < handler.level
  · simp only [if_pos hlow, List.append_nil, implies_true, and_self]
  · simp only [if_neg hlow]
    cases handler with
    | console level => exact ⟨rfl, rfl, rfl, fun path => (List.append_nil _).symm⟩
    | bareConsole level => exact ⟨rfl, rfl, rfl, fun path => (List.append_nil _).symm⟩
    | file level other =>
      exact ⟨rfl, rfl, (List.append_nil _).symm, fun path => lookup_append other path _ _⟩

/-- Handlers take an entry one after the other, and none of them changes another one. -/
theorem foldl_deliver_eq (entry : LogEntry) (handlers : List Handler) (journal : Journal) :
    (handlers.foldl (deliver entry) journal).level = journal.level ∧
      (handlers.foldl (deliver entry) journal).handlers = journal.handlers ∧
      (handlers.foldl (deliver entry) journal).console =
        journal.console ++ handlers.flatMap (shown entry) ∧
      ∀ path, (handlers.foldl (deliver entry) journal).written path =
        journal.written path ++ handlers.flatMap (filed entry path) := by
  induction handlers generalizing journal with
  | nil => simp
  | cons handler rest ih =>
    obtain ⟨hlevel, hhandlers, hconsole, hwritten⟩ := deliver_eq journal entry handler
    obtain ⟨hlevel', hhandlers', hconsole', hwritten'⟩ := ih (deliver entry journal handler)
    refine ⟨hlevel'.trans hlevel, hhandlers'.trans hhandlers, ?_, fun path => ?_⟩
    · rw [List.foldl_cons, hconsole', hconsole, List.flatMap_cons, List.append_assoc]
    · rw [List.foldl_cons, hwritten', hwritten, List.flatMap_cons, List.append_assoc]

theorem record_eq (journal : Journal) (entry : LogEntry) :
    (journal.record entry).level = journal.level ∧
      (journal.record entry).handlers = journal.handlers ∧
      (journal.record entry).console = journal.console ++
        (if entry.level < journal.threshold then [] else journal.handlers.flatMap (shown entry)) ∧
      ∀ path, (journal.record entry).written path = journal.written path ++
        if entry.level < journal.threshold then []
        else journal.handlers.flatMap (filed entry path) := by
  unfold record
  by_cases hlow : entry.level < journal.threshold
  · simp [hlow]
  · simpa [hlow] using foldl_deliver_eq entry journal.handlers journal

/-! ## No line is lost -/

/-- Everything that was written is still there, and what is new comes after it. -/
def Extends (journal next : Journal) : Prop :=
  journal.console <+: next.console ∧ ∀ path, journal.written path <+: next.written path

theorem Extends.trans {last : Journal} (h : journal.Extends next) (h' : next.Extends last) :
    journal.Extends last :=
  ⟨h.1.trans h'.1, fun path => (h.2 path).trans (h'.2 path)⟩

theorem configure_lines (h : journal.configure options stamp = .ok next) :
    next.console = journal.console ∧ ∀ path, next.written path = journal.written path := by
  unfold configure at h
  cases hlevel : options.consoleLevel with
  | error fault =>
    rw [hlevel] at h
    cases h
  | ok level =>
    rw [hlevel] at h
    cases hfile : options.file? stamp with
    | error fault =>
      rw [hfile] at h
      cases h
    | ok file =>
      rw [hfile] at h
      cases file with
      | none =>
        cases h
        exact ⟨rfl, fun path => rfl⟩
      | some file =>
        cases h
        refine ⟨rfl, fun path => ?_⟩
        -- the file is made, but with nothing in it
        rw [written, lookup_append, ite_self, List.append_nil]
        rfl

theorem after_configure_lines (journal : Journal) (options : JournalOptions) (stamp : String)
    (opens : Bool) :
    (journal.after (.configure options stamp opens)).console = journal.console ∧
      ∀ path, (journal.after (.configure options stamp opens)).written path =
        journal.written path := by
  rw [after]
  cases hnext : journal.configure options stamp with
  | error fault => exact ⟨rfl, fun path => rfl⟩
  | ok next =>
    by_cases hclosed : options.KeepsFile ∧ opens = false
    · simp only [if_pos hclosed, implies_true, and_self]
    · simp only [if_neg hclosed]
      exact configure_lines hnext

theorem extends_after (journal : Journal) (event : JournalEvent) :
    journal.Extends (journal.after event) := by
  cases event with
  | configure options stamp opens =>
    obtain ⟨hconsole, hwritten⟩ := after_configure_lines journal options stamp opens
    refine ⟨?_, fun path => ?_⟩
    · exact ⟨[], by rw [List.append_nil, hconsole]⟩
    · exact ⟨[], by rw [List.append_nil, hwritten]⟩
  | note entry =>
    obtain ⟨-, -, hconsole, hwritten⟩ := record_eq journal entry
    exact ⟨⟨_, hconsole.symm⟩, fun path => ⟨_, (hwritten path).symm⟩⟩

theorem extends_run (journal : Journal) (events : List JournalEvent) :
    journal.Extends (journal.run events) := by
  induction events generalizing journal with
  | nil => exact ⟨List.prefix_rfl, fun path => List.prefix_rfl⟩
  | cons event rest ih =>
    rw [run_cons]
    exact (extends_after journal event).trans (ih (journal.after event))

/-! ## The latest call -/

/-- The journal is kept as a call asked for that named the level `asked`. -/
structure KeptBy (options : JournalOptions) (stamp : String) (asked : Level) (journal : Journal) :
    Prop where
  /-- The call named a level. -/
  asked_eq : options.asked? = some asked
  /-- The journal has this level, or the debug level if there is a file. -/
  level_eq : journal.level = if options.KeepsFile then Level.debug else asked
  /-- Entries go to the console from this level on, and all of them to the file if there is one. -/
  handlers_eq : journal.handlers = .console asked ::
    if options.KeepsFile then [.file Level.debug (options.path stamp)] else []

theorem configure_of_takesEffect (h : options.TakesEffect opens)
    (hlevel : options.asked? = some level) (journal : Journal) (stamp : String) :
    ∃ next, journal.configure options stamp = .ok next ∧ KeptBy options stamp level next := by
  unfold configure
  rw [JournalOptions.consoleLevel_of_asked? hlevel]
  by_cases hfile : options.KeepsFile
  · rw [JournalOptions.file?_of_keepsFile hfile (h hfile).1]
    exact ⟨_, rfl, hlevel, (if_pos hfile).symm, by rw [if_pos hfile]⟩
  · rw [JournalOptions.file?_of_not_keepsFile hfile]
    exact ⟨_, rfl, hlevel, (if_neg hfile).symm, by rw [if_neg hfile]⟩

/-- A call that takes effect says how the journal is kept from then on. -/
theorem keptBy_after_configure (h : options.TakesEffect opens)
    (hlevel : options.asked? = some level) (journal : Journal) :
    KeptBy options stamp level (journal.after (.configure options stamp opens)) := by
  obtain ⟨next, hnext, hkept⟩ := configure_of_takesEffect h hlevel journal stamp
  have hopens : ¬ (options.KeepsFile ∧ opens = false) := by
    rintro ⟨hfile, hclosed⟩
    rw [(h hfile).2] at hclosed
    cases hclosed
  simp only [after, hnext, if_neg hopens]
  exact hkept

theorem after_configure_of_not_takesEffect (h : ¬ options.TakesEffect opens)
    (hlevel : options.asked? ≠ none) (journal : Journal) (stamp : String) :
    journal.after (.configure options stamp opens) = journal := by
  obtain ⟨level, hlevel⟩ := Option.ne_none_iff_exists'.1 hlevel
  obtain ⟨hfile, hnot⟩ := Classical.not_imp.1 h
  by_cases hzero : '\x00' ∈ options.dir.toList ++ options.action.toList
  · have herror : options.file? stamp = .error .zeroInPath := by
      rw [JournalOptions.file?, if_pos (show _ ∧ _ from hfile), if_pos hzero]
    have hconfigure : journal.configure options stamp = .error .zeroInPath := by
      rw [configure, JournalOptions.consoleLevel_of_asked? hlevel, herror]
      rfl
    rw [after, hconfigure]
  · have hclosed : opens = false := by
      cases opens with
      | true => exact absurd ⟨hzero, rfl⟩ hnot
      | false => rfl
    rw [after]
    split
    · rfl
    · exact if_pos ⟨hfile, hclosed⟩

namespace KeptBy

theorem record (h : KeptBy options stamp level journal) (entry : LogEntry) :
    KeptBy options stamp level (journal.record entry) := by
  obtain ⟨hlevel, hhandlers, -⟩ := record_eq journal entry
  exact ⟨h.asked_eq, hlevel.trans h.level_eq, hhandlers.trans h.handlers_eq⟩

theorem threshold_eq (h : KeptBy options stamp level journal) :
    journal.threshold = if options.KeepsFile then Level.debug else level := by
  have hdebug : Level.debug ≤ level := JournalOptions.debug_le_of_asked? h.asked_eq
  have hset : journal.level ≠ Level.unset := by
    rw [h.level_eq]
    split
    · decide
    · intro hunset
      rw [hunset] at hdebug
      exact absurd hdebug (by decide)
  rw [threshold, if_neg hset, h.level_eq]

theorem threshold_le (h : KeptBy options stamp level journal) : journal.threshold ≤ level := by
  rw [h.threshold_eq]
  split
  · exact JournalOptions.debug_le_of_asked? h.asked_eq
  · exact Int.le_refl level

/-- The console shows an entry as the latest call says, and the file has no part in it. -/
theorem console_record (h : KeptBy options stamp level journal) (entry : LogEntry) :
    (journal.record entry).console =
      journal.console ++ NotedEntry.onConsole ⟨options, stamp, entry⟩ := by
  obtain ⟨-, -, hconsole, -⟩ := record_eq journal entry
  have hshown : journal.handlers.flatMap (shown entry) = shown entry (.console level) := by
    rw [h.handlers_eq, List.flatMap_cons]
    split <;> simp
  rw [hconsole, NotedEntry.onConsole, h.asked_eq, hshown]
  by_cases hlow : entry.level < level
  · have hnot : ¬ level ≤ entry.level := Int.not_le.2 hlow
    simp [shown, Handler.level, hlow, hnot]
  · have hle : level ≤ entry.level := Int.not_lt.1 hlow
    have hpass : ¬ entry.level < journal.threshold :=
      Int.not_lt.2 (Int.le_trans h.threshold_le hle)
    simp [shown, Handler.level, hlow, hpass, hle]

theorem written_record (h : KeptBy options stamp level journal) (entry : LogEntry)
    (path : String) :
    (journal.record entry).written path =
      journal.written path ++ NotedEntry.inFile ⟨options, stamp, entry⟩ path := by
  obtain ⟨-, -, -, hwritten⟩ := record_eq journal entry
  have hfiled : journal.handlers.flatMap (filed entry path) =
      if options.KeepsFile then filed entry path (.file Level.debug (options.path stamp))
      else [] := by
    rw [h.handlers_eq, List.flatMap_cons]
    split <;> simp
  rw [hwritten, NotedEntry.inFile, h.threshold_eq, hfiled]
  by_cases hfile : options.KeepsFile
  · by_cases hlow : entry.level < Level.debug
    · have hnot : ¬ 10 ≤ entry.level := Int.not_le.2 hlow
      simp [hfile, hlow, hnot]
    · have hle : 10 ≤ entry.level := Int.not_lt.1 hlow
      simp [hfile, hlow, hle, filed, Handler.level]
  · simp [hfile]

theorem countP_handlers (h : KeptBy options stamp level journal) :
    journal.handlers.countP Handler.isConsole = 1 ∧ journal.handlers.countP Handler.isFile ≤ 1 := by
  rw [h.handlers_eq]
  by_cases hfile : options.KeepsFile
  · rw [if_pos hfile]
    exact ⟨rfl, Nat.le_refl 1⟩
  · rw [if_neg hfile]
    exact ⟨rfl, Nat.zero_le 1⟩

/-- Over a run each entry goes where the latest call before it says, and no handler of an earlier
call is left. -/
theorem run {events : List JournalEvent} (h : KeptBy options stamp level journal)
    (hnames : ∀ event ∈ events, event.NamesLevel) :
    (∃ later time asked, KeptBy later time asked (journal.run events)) ∧
      (journal.run events).console = journal.console ++
        (JournalEvent.noted options stamp events).flatMap NotedEntry.onConsole ∧
      ∀ path, (journal.run events).written path = journal.written path ++
        (JournalEvent.noted options stamp events).flatMap fun noted => noted.inFile path := by
  induction events generalizing journal options stamp level with
  | nil => exact ⟨⟨options, stamp, level, h⟩, by simp [Journal.run, JournalEvent.noted]⟩
  | cons event rest ih =>
    obtain ⟨hevent, hrest⟩ := List.forall_mem_cons.1 hnames
    rw [run_cons]
    cases event with
    | note entry =>
      obtain ⟨hkept, hconsole, hwritten⟩ := ih (h.record entry) hrest
      refine ⟨hkept, ?_, fun path => ?_⟩
      · rw [JournalEvent.noted, List.flatMap_cons, ← List.append_assoc, ← h.console_record]
        exact hconsole
      · rw [JournalEvent.noted, List.flatMap_cons, ← List.append_assoc, ← h.written_record]
        exact hwritten path
    | configure later time opens =>
      by_cases heffect : later.TakesEffect opens
      · obtain ⟨asked, hasked⟩ := Option.ne_none_iff_exists'.1 hevent
        obtain ⟨hsame, hsame'⟩ := after_configure_lines journal later time opens
        rw [JournalEvent.noted, if_pos heffect, ← hsame]
        simp only [← hsame']
        exact ih (keptBy_after_configure heffect hasked journal) hrest
      · rw [JournalEvent.noted, if_neg heffect,
          after_configure_of_not_takesEffect heffect hevent]
        exact ih h hrest

end KeptBy

/-- Where entries go over a whole run that starts with a call that takes effect. The console has
every entry once that is at least as grave as the latest call before it asks for, and no other line;
a file has every entry once that is noted under a call with this file and is not below the debug
level. There are one handler for the console and at most one for a file; whatever comes next, no
line is lost; and the file of a call is under its directory and its action, where an action that
starts at the root takes the place of the directory. -/
theorem run_follows_latest_call (journal : Journal) {first : JournalOptions} {stamp : String}
    {opens : Bool} {events : List JournalEvent} (hfirst : first.TakesEffect opens)
    (hnames : ∀ event ∈ .configure first stamp opens :: events, event.NamesLevel) :
    let now := journal.run (.configure first stamp opens :: events)
    let entries := JournalEvent.noted first stamp events
    now.console = journal.console ++ entries.flatMap NotedEntry.onConsole ∧
      (∀ path, now.written path =
        journal.written path ++ entries.flatMap fun noted => noted.inFile path) ∧
      (now.handlers.countP Handler.isConsole = 1 ∧ now.handlers.countP Handler.isFile ≤ 1) ∧
      (∀ more, now.Extends (now.run more)) ∧
      (∀ (options : JournalOptions) (time : String), options.action.toList.head? ≠ some '/' →
        options.path time = plainPath (options.place ++ "/" ++ options.action ++ "/" ++
          (options.action ++ "_" ++ time ++ ".log"))) ∧
      ∀ (options : JournalOptions) (time : String), JournalOptions.IsStep options.action →
        '/' ∉ time.toList →
        options.path time = (if options.place.toList.head? = some '/' then "/" else "") ++
          String.intercalate "/" (pathSteps options.place ++
            [options.action, options.action ++ "_" ++ time ++ ".log"]) := by
  obtain ⟨hcall, hevents⟩ := List.forall_mem_cons.1 hnames
  obtain ⟨level, hlevel⟩ := Option.ne_none_iff_exists'.1 hcall
  have hkept : KeptBy first stamp level (journal.after (.configure first stamp opens)) :=
    keptBy_after_configure hfirst hlevel journal
  obtain ⟨⟨later, time, asked, hlater⟩, hconsole, hwritten⟩ := hkept.run hevents
  obtain ⟨hsame, hsame'⟩ := after_configure_lines journal first stamp opens
  rw [hsame] at hconsole
  simp only [hsame'] at hwritten
  simp only [run_cons]
  exact ⟨hconsole, hwritten, hlater.countP_handlers, extends_run _,
    fun options time h => JournalOptions.path_of_not_root h time,
    fun options time h htime => JournalOptions.path_of_isStep h htime⟩

/-- With a file the console is no louder than asked for, and without one the file takes nothing
more; a call in between whose file cannot be had leaves the file of the first one. -/
theorem run_follows_latest_call_three_calls :
    let first : JournalOptions := { level := "info", action := "compile", toFile := true }
    let lost : JournalOptions := { level := "debug", action := "explain", toFile := true }
    let last : JournalOptions := { level := "Warning", action := "compile" }
    let now := fresh.run [.configure first "0102030405" true, .note ⟨10, "a"⟩, .note ⟨20, "b"⟩,
      .configure lost "0102030406" false, .note ⟨5, "c"⟩, .note ⟨10, "d"⟩,
      .configure last "0102030407" true, .note ⟨20, "e"⟩, .note ⟨35, "f"⟩]
    now.console = ["[INFO] b", "[Leve] f"] ∧
      now.written "log/compile/compile_0102030405.log" = ["[DEBG] a", "[INFO] b", "[DEBG] d"] ∧
      now.handlers.countP Handler.isConsole = 1 ∧
      first.path "0102030405" = "log/compile/compile_0102030405.log" := by
  intro first lost last now
  have hfirst : first.TakesEffect true := by decide
  have hnames : ∀ event ∈ [.configure first "0102030405" true, .note ⟨10, "a"⟩, .note ⟨20, "b"⟩,
      .configure lost "0102030406" false, .note ⟨5, "c"⟩, .note ⟨10, "d"⟩,
      .configure last "0102030407" true, .note ⟨20, "e"⟩, .note ⟨35, "f"⟩],
      JournalEvent.NamesLevel event := by
    simp only [List.forall_mem_cons, JournalEvent.NamesLevel, List.not_mem_nil, false_imp_iff,
      implies_true, and_true, true_and]
    decide +kernel
  obtain ⟨hconsole, hwritten, hcount, -, -, hpath⟩ := run_follows_latest_call fresh hfirst hnames
  have hstep : JournalOptions.IsStep first.action := ⟨by decide, by decide⟩
  refine ⟨hconsole.trans ?_, (hwritten _).trans ?_, hcount.1,
    (hpath first "0102030405" hstep (by decide)).trans ?_⟩
  · decide +kernel
  · decide +kernel
  · decide +kernel

end Journal

end StockQuery
