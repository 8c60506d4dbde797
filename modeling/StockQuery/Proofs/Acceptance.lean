import StockQuery.Proofs.Agreement
import StockQuery.Proofs.Paths

/-!
# Accepted settings

Settings are accepted if they meet demands in a fixed order: first those on the kinds of the
settings in each section, then those on their values. The first demand that is not met is the fault
that is reported. Each reader answers a list of demands of its own, and readers one after the other
answer their lists together (`Answers.bind`).
-/

namespace StockQuery

/-! ## Demands -/

/-- A demand on settings, and what is wrong where it is not met. -/
structure Demand where
  /-- What is wrong where the demand is not met. -/
  fault : SettingsFault
  /-- What is asked for. -/
  Met : Prop

/-- The fault is that of the first demand that is not met. -/
inductive FirstUnmet : List Demand → SettingsFault → Prop where
  /-- The first demand of the list is not met. -/
  | here {demand : Demand} {rest : List Demand} (h : ¬ demand.Met) :
    FirstUnmet (demand :: rest) demand.fault
  /-- The first demand is met, and the fault is that of the first of the others that is not. -/
  | later {demand : Demand} {rest : List Demand} {fault : SettingsFault} (h : demand.Met)
    (hrest : FirstUnmet rest fault) : FirstUnmet (demand :: rest) fault

/-- A reading gives a good result if all demands are met, and else the fault of the first that is
not. -/
inductive Answers {α : Type} (demands : List Demand) (Good : α → Prop) :
    Except SettingsFault α → Prop where
  /-- All demands are met, and the result is good. -/
  | ok {a : α} (met : ∀ demand ∈ demands, demand.Met) (good : Good a) :
    Answers demands Good (.ok a)
  /-- A demand is not met. -/
  | error {fault : SettingsFault} (first : FirstUnmet demands fault) :
    Answers demands Good (.error fault)

section

variable {α β : Type} {demands more : List Demand} {fault : SettingsFault}

/-- A fault comes from a demand that is not met. -/
theorem FirstUnmet.exists_unmet (h : FirstUnmet demands fault) :
    ∃ demand ∈ demands, ¬ demand.Met := by
  induction h with
  | here h => exact ⟨_, List.mem_cons_self, h⟩
  | later h hrest ih =>
    obtain ⟨demand, hdemand, hunmet⟩ := ih
    exact ⟨demand, List.mem_cons_of_mem _ hdemand, hunmet⟩

/-- Only one demand is the first that is not met. -/
theorem FirstUnmet.unique {other : SettingsFault} (h : FirstUnmet demands fault)
    (hother : FirstUnmet demands other) : fault = other := by
  induction h with
  | here h =>
    cases hother with
    | here => rfl
    | later hmet => exact absurd hmet h
  | later h hrest ih =>
    cases hother with
    | here hunmet => exact absurd h hunmet
    | later hmet hother => exact ih hother

/-- Demands behind the first one that is not met make no difference. -/
theorem FirstUnmet.append_right (h : FirstUnmet demands fault) (more : List Demand) :
    FirstUnmet (demands ++ more) fault := by
  induction h with
  | here h => exact .here h
  | later h hrest ih => exact .later h ih

/-- Demands in front that are met make none either. -/
theorem FirstUnmet.append_left (h : ∀ demand ∈ demands, demand.Met)
    (hmore : FirstUnmet more fault) : FirstUnmet (demands ++ more) fault := by
  induction demands with
  | nil => exact hmore
  | cons demand rest ih =>
    obtain ⟨hmet, hrest⟩ := List.forall_mem_cons.1 h
    exact .later hmet (ih hrest)

namespace Answers

variable {Good : α → Prop} {result : Except SettingsFault α}

/-- The reading fails with the fault of the first demand that is not met, and with no other. -/
theorem eq_error_iff (h : Answers demands Good result) :
    result = .error fault ↔ FirstUnmet demands fault := by
  cases h with
  | ok met good =>
    refine iff_of_false nofun fun hfirst => ?_
    obtain ⟨demand, hdemand, hunmet⟩ := hfirst.exists_unmet
    exact hunmet (met demand hdemand)
  | error first =>
    constructor
    · rintro ⟨rfl⟩
      exact first
    · intro hfirst
      rw [first.unique hfirst]

/-- The reading succeeds exactly if all demands are met. -/
theorem exists_eq_ok_iff (h : Answers demands Good result) :
    (∃ a, result = .ok a) ↔ ∀ demand ∈ demands, demand.Met := by
  cases h with
  | ok met good => exact iff_of_true ⟨_, rfl⟩ met
  | error first =>
    obtain ⟨demand, hdemand, hunmet⟩ := first.exists_unmet
    exact iff_of_false nofun fun hmet => hunmet (hmet demand hdemand)

/-- A result is good. -/
theorem good_of_eq_ok (h : Answers demands Good result) {a : α} (hok : result = .ok a) :
    Good a := by
  cases h with
  | ok met good => exact Except.ok.inj hok ▸ good
  | error first => cases hok

/-- What is good may be told in weaker words. -/
theorem mono (h : Answers demands Good result) {Fine : α → Prop}
    (hfine : ∀ a, Good a → Fine a) : Answers demands Fine result := by
  cases h with
  | ok met good => exact .ok met (hfine _ good)
  | error first => exact .error first

/-- Readings one after the other answer their demands one after the other. -/
theorem bind {Fine : β → Prop} {read : α → Except SettingsFault β}
    (h : Answers demands Good result) (hread : ∀ a, Good a → Answers more Fine (read a)) :
    Answers (demands ++ more) Fine (result >>= read) := by
  cases h with
  | error first => exact .error (first.append_right more)
  | @ok a met good =>
    have hmore := hread a good
    change Answers (demands ++ more) Fine (read a)
    -- The second reading stands for itself, for its demands do not mention what was read first.
    generalize read a = next at hmore ⊢
    cases hmore with
    | error first => exact .error (.append_left met first)
    | ok hmet hgood => exact .ok (List.forall_mem_append.2 ⟨met, hmet⟩) hgood

/-- A reading that cannot fail demands nothing. -/
theorem pure {a : α} (h : Good a) : Answers [] Good (.ok a) :=
  .ok (List.forall_mem_nil _) h

/-- A check in front of a reading adds a demand that is met where the check passes. -/
theorem check {P : Prop} [Decidable P] {demand : Demand} (hmet : demand.Met ↔ ¬ P)
    (h : Answers demands Good result) :
    Answers (demand :: demands) Good (if P then .error demand.fault else result) := by
  by_cases hP : P
  · rw [if_pos hP]
    exact .error (.here fun hdemand => hmet.1 hdemand hP)
  · rw [if_neg hP]
    have hdemand : demand.Met := hmet.2 hP
    cases h with
    | ok met good => exact .ok (List.forall_mem_cons.2 ⟨hdemand, met⟩) good
    | error first => exact .error (.later hdemand first)

end Answers

end

/-! ## Demands on the kinds of settings -/

variable {α : Type} {fault : SettingsFault}

namespace Demand

/-- A section is there, and not set to nothing. -/
def present (root : Section) (name : String) : Demand :=
  ⟨.missing name, ∃ value, root.at? [name] = some value ∧ value ≠ .null⟩

/-- A section is a mapping, if it is there. -/
def object (root : Section) (name : String) : Demand :=
  ⟨.notObject name, ∀ value, root.at? [name] = some value → value = .null ∨ value.isMap = true⟩

/-- A setting is there. -/
def given (root : Section) (path : List String) (key : String) : Demand :=
  ⟨.missing key, root.at? path ≠ none⟩

/-- A setting is of a kind, if it is there. -/
def ofKind (root : Section) (path : List String) (wrap : α → Setting) (fault : SettingsFault) :
    Demand :=
  ⟨fault, ∀ value, root.at? path = some value → ∃ a, value = wrap a⟩

/-- A demand that is waived under a condition. -/
def waived (demand : Demand) (P : Prop) : Demand := ⟨demand.fault, P ∨ demand.Met⟩

/-- A demand is waived under its condition only. -/
theorem waived_of_not (demand : Demand) {P : Prop} (h : ¬ P) : demand.waived P = demand := by
  unfold waived
  rw [propext (or_iff_right h)]

end Demand

/-- A reader takes the settings of one kind and no others. -/
structure Setting.Reads (read : Setting → Except SettingsFault α) (wrap : α → Setting)
    (fault : SettingsFault) : Prop where
  /-- A setting of the kind is read as what it wraps. -/
  ok : ∀ a, read (wrap a) = .ok a
  /-- A setting of another kind is a fault. -/
  error : ∀ value, (∀ a, value ≠ wrap a) → read value = .error fault

/-- Texts are taken where a text is asked for. -/
theorem Setting.asText_reads (key : String) : Reads (asText key) .text (.notText key) := by
  refine ⟨fun _ => rfl, fun value h => ?_⟩
  cases value with
  | text value => exact absurd rfl (h value)
  | null | bool | int | real | list | map => rfl

/-- Truth values are taken where one is asked for. -/
theorem Setting.asBool_reads (key : String) : Reads (asBool key) .bool (.notBool key) := by
  refine ⟨fun _ => rfl, fun value h => ?_⟩
  cases value with
  | bool value => exact absurd rfl (h value)
  | null | text | int | real | list | map => rfl

/-- Integers are taken where one is asked for. -/
theorem Setting.asInt_reads (key : String) : Reads (asInt key) .int (.notInt key) := by
  refine ⟨fun _ => rfl, fun value h => ?_⟩
  cases value with
  | int value => exact absurd rfl (h value)
  | null | text | bool | real | list | map => rfl

namespace Section

variable {root entries : Section} {name field : String} {path : List String}

/-- A path of one name is the entry of this name. -/
theorem at?_singleton (root : Section) (name : String) : root.at? [name] = root.lookup name := by
  unfold at? Setting.at?
  exact Option.bind_fun_some _

/-- A path of two names is an entry of a section. -/
theorem at?_pair (h : root.at? [name] = some (.map entries)) (field : String) :
    root.at? [name, field] = entries.lookup field := by
  rw [at?_singleton] at h
  unfold at? Setting.at?
  rw [h]
  exact at?_singleton entries field

/-- A required section has to be there and to be a mapping. -/
theorem required_answers (root : Section) (name : String) :
    Answers [.present root name, .object root name]
      (fun entries => root.at? [name] = some (.map entries)) (root.required name) := by
  unfold required Demand.present Demand.object
  rw [at?_singleton]
  cases root.lookup name with
  | none => exact .error (.here (by simp))
  | some value =>
    cases value with
    | null => exact .error (.here (by simp))
    | map entries =>
      refine .ok (List.forall_mem_cons.2 ⟨by simp, List.forall_mem_singleton.2 ?_⟩) rfl
      rintro value ⟨rfl⟩
      exact .inr rfl
    | bool | int | real | text | list =>
      refine .error (.later (by simp) (.here fun hmet => ?_))
      cases hmet _ rfl with
      | inl hnull => cases hnull
      | inr hmap => cases hmap

/-- An optional section has to be a mapping if it is there. -/
theorem optional_answers (root : Section) (name : String) :
    Answers [.object root name]
      (fun entries => ∀ field, root.at? [name, field] = entries.lookup field)
      (root.optional name) := by
  have hlookup : ∀ field, root.at? [name, field] =
      (root.lookup name).bind fun value => value.at? [field] := fun _ => rfl
  unfold optional Demand.object
  rw [at?_singleton]
  simp only [hlookup]
  cases root.lookup name with
  | none => exact .ok (by simp) fun _ => rfl
  | some value =>
    cases value with
    | null => exact .ok (by simp) fun _ => rfl
    | map entries =>
      refine .ok (List.forall_mem_singleton.2 ?_) (at?_singleton entries)
      rintro value ⟨rfl⟩
      exact .inr rfl
    | bool | int | real | text | list =>
      refine .error (.here fun hmet => ?_)
      cases hmet _ rfl with
      | inl hnull => cases hnull
      | inr hmap => cases hmap

/-- A setting that has to be given is the one that stands at its path. -/
theorem value_answers (h : root.at? path = entries.lookup field) (key : String) :
    Answers [.given root path key] (fun value => root.at? path = some value)
      (entries.value field key) := by
  unfold value Demand.given
  rw [h]
  cases entries.lookup field with
  | none => exact .error (.here (not_not_intro rfl))
  | some value => exact .ok (by simp) rfl

variable {read : Setting → Except SettingsFault α} {wrap : α → Setting}

/-- A setting has to be of the kind that is read. -/
theorem reads_answers (hread : Setting.Reads read wrap fault) {value : Setting}
    (h : root.at? path = some value) :
    Answers [.ofKind root path wrap fault] (fun a => root.at? path = some (wrap a))
      (read value) := by
  unfold Demand.ofKind
  rw [h]
  by_cases hkind : ∃ a, value = wrap a
  · obtain ⟨a, rfl⟩ := hkind
    rw [hread.ok a]
    exact .ok (by simp) rfl
  · rw [hread.error value fun a heq => hkind ⟨a, heq⟩]
    exact .error (.here fun hmet => hkind (hmet value rfl))

/-- A setting that may be left out has to be of the kind if it is given. -/
theorem valueOr_answers (hread : Setting.Reads read wrap fault)
    (h : root.at? path = entries.lookup field) (default : α) :
    Answers [.ofKind root path wrap fault]
      (fun a => (root.at? path).getD (wrap default) = wrap a)
      (read (entries.valueOr field (wrap default))) := by
  unfold valueOr
  rw [← h]
  cases hfound : root.at? path with
  | none =>
    rw [Option.getD_none, hread.ok default]
    refine .ok (List.forall_mem_singleton.2 fun value hvalue => ?_) rfl
    rw [hfound] at hvalue
    cases hvalue
  | some value =>
    refine (reads_answers hread hfound).mono fun a ha => ?_
    rw [hfound] at ha
    exact Option.some.inj ha

end Section

/-! ## The sections -/

/-- The level that is named: by the environment, without blanks at either end, or else by the
setting as it stands. -/
inductive LevelNamed (envLevel : Option String) (root : Section) : String → Prop where
  /-- The environment names a level. -/
  | environment (h : Text.strip (envLevel.getD "") ≠ "") :
    LevelNamed envLevel root (Text.strip (envLevel.getD ""))
  /-- The environment names none, and the setting does. -/
  | setting {name : String} (h : Text.strip (envLevel.getD "") = "")
    (hname : root.at? ["log", "level"] = some (.text name)) : LevelNamed envLevel root name

variable {envLevel : Option String} {root : Section}

/-- Only one level is named. -/
theorem LevelNamed.unique {name other : String} (h : LevelNamed envLevel root name)
    (hother : LevelNamed envLevel root other) : name = other := by
  cases h with
  | environment h =>
    cases hother with
    | environment => rfl
    | setting hblank => exact absurd hblank h
  | setting h hname =>
    cases hother with
    | environment hnamed => exact absurd h hnamed
    | setting hblank hother => exact Setting.text.inj (Option.some.inj (hname.symm.trans hother))

/-- What the section says about the journal. -/
structure LogSettings.SaidBy (envLevel : Option String) (root : Section) (log : LogSettings) :
    Prop where
  /-- The level is the named one in capitals. -/
  level : ∃ name, LevelNamed envLevel root name ∧ log.level = Text.upper name
  /-- There are log files if the setting says so, and none if it is left out. -/
  toFile : (root.at? ["log", "to_file"]).getD (.bool false) = .bool log.toFile
  /-- The directory is the one of the setting, and `log` if it is left out. -/
  dir : (root.at? ["log", "dir"]).getD (.text "log") = .text log.dir

/-- What the section says about search strings. -/
structure SearchSettings.SaidBy (root : Section) (search : SearchSettings) : Prop where
  /-- The limit is the one of the setting. -/
  maxTerms : root.at? ["search", "max_terms"] = some (.int search.maxTerms)
  /-- The relaxation is named without blanks at either end and in small letters, and is the
  exhaustive one if the setting is left out. -/
  relaxation : ∃ name,
    (root.at? ["search", "relaxation"]).getD (.text "exhaustive") = .text name ∧
      search.relaxation = Text.lower (Text.strip name)

/-- What the section says about statements. -/
structure SqlSettings.SaidBy (root : Section) (sql : SqlSettings) : Prop where
  /-- The parameter style is named without blanks at either end and in small letters, and is that of
  question marks if the setting is left out. -/
  paramstyle : ∃ name, (root.at? ["sql", "paramstyle"]).getD (.text "qmark") = .text name ∧
    sql.paramstyle = Text.lower (Text.strip name)

/-- What the section on the journal has to be made of. No level is asked of it if the environment
names one. -/
def LogSettings.kindDemands (envLevel : Option String) (root : Section) : List Demand :=
  [.present root "log", .object root "log",
    (Demand.given root ["log", "level"] "log.level").waived (Text.strip (envLevel.getD "") ≠ ""),
    (Demand.ofKind root ["log", "level"] Setting.text (.notText "log.level")).waived
      (Text.strip (envLevel.getD "") ≠ ""),
    .ofKind root ["log", "to_file"] .bool (.notBool "log.to_file"),
    .ofKind root ["log", "dir"] .text (.notText "log.dir")]

/-- What the section on search strings has to be made of. -/
def SearchSettings.kindDemands (root : Section) : List Demand :=
  [.present root "search", .object root "search",
    .given root ["search", "max_terms"] "search.max_terms",
    .ofKind root ["search", "max_terms"] .int (.notInt "search.max_terms"),
    .ofKind root ["search", "relaxation"] .text (.notText "search.relaxation")]

/-- What the section on statements has to be made of, which may be left out. -/
def SqlSettings.kindDemands (root : Section) : List Demand :=
  [.object root "sql", .ofKind root ["sql", "paramstyle"] .text (.notText "sql.paramstyle")]

/-- What the values of the section on the journal have to be: a known level, and a directory with a
name if there are log files. -/
def LogSettings.valueDemands (envLevel : Option String) (root : Section) : List Demand :=
  [⟨.notAmong "log.level" configLevels,
      ∀ name, LevelNamed envLevel root name → Text.upper name ∈ configLevels⟩,
    ⟨.blank "log.dir", root.at? ["log", "to_file"] = some (.bool true) →
      ∀ dir, root.at? ["log", "dir"] = some (.text dir) → Text.allBlank dir = false⟩]

/-- What the values of the section on search strings have to be: a limit above zero, and a known
relaxation. -/
def SearchSettings.valueDemands (root : Section) : List Demand :=
  [⟨.notPositive "search.max_terms",
      ∀ n, root.at? ["search", "max_terms"] = some (.int n) → 0 < n⟩,
    ⟨.notAmong "search.relaxation" configRelaxations,
      ∀ name, root.at? ["search", "relaxation"] = some (.text name) →
        Text.lower (Text.strip name) ∈ configRelaxations⟩]

/-- What the value of the section on statements has to be: a known parameter style. -/
def SqlSettings.valueDemands (root : Section) : List Demand :=
  [⟨.notAmong "sql.paramstyle" configParamstyles,
    ∀ name, root.at? ["sql", "paramstyle"] = some (.text name) →
      Text.lower (Text.strip name) ∈ configParamstyles⟩]

/-- The name of the level, from the environment or from the section. -/
def LogSettings.readLevel (envLevel : Option String) (log : Section) :
    Except SettingsFault String :=
  if Text.strip (envLevel.getD "") = "" then
    (log.value "level" "log.level").bind (Setting.asText "log.level")
  else .ok (Text.strip (envLevel.getD ""))

/-- The section on the journal is read field by field, the level first. -/
theorem LogSettings.read_eq (envLevel : Option String) (root : Section) :
    read envLevel root = (do
      let log ← root.required "log"
      let level ← readLevel envLevel log
      let toFile ← (log.valueOr "to_file" (.bool false)).asBool "log.to_file"
      let dir ← (log.valueOr "dir" (.text "log")).asText "log.dir"
      return ⟨Text.upper level, toFile, dir⟩) := by
  unfold read readLevel
  by_cases hblank : Text.strip (envLevel.getD "") = ""
  · simp only [hblank, if_true]
  · simp only [hblank, if_false]

/-- The level has to be given as a text, unless the environment names one. -/
theorem LogSettings.readLevel_answers {log : Section}
    (hlog : root.at? ["log", "level"] = log.lookup "level") :
    Answers [(Demand.given root ["log", "level"] "log.level").waived
        (Text.strip (envLevel.getD "") ≠ ""),
      (Demand.ofKind root ["log", "level"] Setting.text (.notText "log.level")).waived
        (Text.strip (envLevel.getD "") ≠ "")]
      (LevelNamed envLevel root) (readLevel envLevel log) := by
  unfold readLevel
  by_cases hblank : Text.strip (envLevel.getD "") = ""
  · rw [if_pos hblank, Demand.waived_of_not _ (not_not_intro hblank),
      Demand.waived_of_not _ (not_not_intro hblank)]
    refine (Section.value_answers hlog "log.level").bind fun value h => ?_
    exact (Section.reads_answers (Setting.asText_reads _) h).mono fun name => .setting hblank
  -- The section is not asked for its level, so that its demands on it are waived.
  · rw [if_neg hblank]
    exact .ok (by simp [Demand.waived, hblank]) (.environment hblank)

/-- The section on the journal is read as its demands on kinds ask. -/
theorem LogSettings.read_answers (envLevel : Option String) (root : Section) :
    Answers (kindDemands envLevel root) (SaidBy envLevel root) (read envLevel root) := by
  rw [read_eq]
  refine (Section.required_answers root "log").bind fun log hlog => ?_
  have hfield := Section.at?_pair hlog
  refine (readLevel_answers (hfield "level")).bind fun level hlevel => ?_
  have htoFile := Section.valueOr_answers (Setting.asBool_reads "log.to_file") (hfield "to_file")
  have hdir := Section.valueOr_answers (Setting.asText_reads "log.dir") (hfield "dir")
  refine (htoFile false).bind fun toFile h => ?_
  exact (hdir "log").bind fun dir h' => .pure ⟨⟨level, hlevel, rfl⟩, h, h'⟩

/-- The section on search strings is read as its demands on kinds ask. -/
theorem SearchSettings.read_answers (root : Section) :
    Answers (kindDemands root) (SaidBy root) (read root) := by
  refine (Section.required_answers root "search").bind fun search hsearch => ?_
  have hfield := Section.at?_pair hsearch
  refine (Section.value_answers (hfield "max_terms") _).bind fun limit hlimit => ?_
  refine (Section.reads_answers (Setting.asInt_reads _) hlimit).bind fun maxTerms h => ?_
  have hrelaxation :=
    Section.valueOr_answers (Setting.asText_reads "search.relaxation") (hfield "relaxation")
  exact (hrelaxation "exhaustive").bind fun name h' => .pure ⟨h, name, h', rfl⟩

/-- The section on statements is read as its demands on kinds ask. -/
theorem SqlSettings.read_answers (root : Section) :
    Answers (kindDemands root) (SaidBy root) (read root) := by
  refine (Section.optional_answers root "sql").bind fun sql hfield => ?_
  have hstyle :=
    Section.valueOr_answers (Setting.asText_reads "sql.paramstyle") (hfield "paramstyle")
  exact (hstyle "qmark").bind fun name h => .pure ⟨name, h, rfl⟩

/-- A text that may be left out is as it should be if the one that holds is, and so is the
default. -/
theorem forall_text_iff {P : String → Prop} {found : Option Setting} {default name : String}
    (h : found.getD (.text default) = .text name) (hdefault : P default) :
    (∀ other, found = some (.text other) → P other) ↔ P name := by
  rcases Option.getD_eq_iff.1 h with rfl | ⟨rfl, heq⟩
  · simp
  · obtain rfl := Setting.text.inj heq
    simp [hdefault]

/-- The values of the section on the journal are checked as its demands on values ask. -/
theorem LogSettings.check_answers {log : LogSettings} (h : log.SaidBy envLevel root) :
    Answers (valueDemands envLevel root) (fun _ => True) log.check := by
  obtain ⟨⟨name, hname, hlevel⟩, htoFile, hdir⟩ := h
  have hlevels : (∀ other, LevelNamed envLevel root other → Text.upper other ∈ configLevels) ↔
      ¬ log.level ∉ configLevels := by
    rw [Decidable.not_not, hlevel]
    exact ⟨fun h => h name hname, fun h other hother => hother.unique hname ▸ h⟩
  have hplace : (root.at? ["log", "to_file"] = some (.bool true) →
      ∀ dir, root.at? ["log", "dir"] = some (.text dir) → Text.allBlank dir = false) ↔
      ¬ (log.toFile && Text.allBlank log.dir) = true := by
    have hfiles : root.at? ["log", "to_file"] = some (.bool true) ↔ log.toFile = true := by
      rcases Option.getD_eq_iff.1 htoFile with h | ⟨h, hdefault⟩
      · simp [h]
      · simp [h, ← Setting.bool.inj hdefault]
    rw [hfiles, forall_text_iff (P := fun dir => Text.allBlank dir = false) hdir (by decide)]
    cases log.toFile <;> simp
  exact .check hlevels (.check hplace (.pure trivial))

/-- The values of the section on search strings are checked as its demands on values ask. -/
theorem SearchSettings.check_answers {search : SearchSettings} (h : search.SaidBy root) :
    Answers (valueDemands root) (fun _ => True) search.check := by
  obtain ⟨hmaxTerms, name, hname, hrelaxation⟩ := h
  have hlimit : (∀ n, root.at? ["search", "max_terms"] = some (.int n) → 0 < n) ↔
      ¬ search.maxTerms ≤ 0 := by
    rw [hmaxTerms]
    simp
  have hknown : (∀ name, root.at? ["search", "relaxation"] = some (.text name) →
      Text.lower (Text.strip name) ∈ configRelaxations) ↔
      ¬ search.relaxation ∉ configRelaxations := by
    rw [Decidable.not_not, hrelaxation]
    exact forall_text_iff (P := fun name => Text.lower (Text.strip name) ∈ configRelaxations) hname
      (by decide +kernel)
  exact .check hlimit (.check hknown (.pure trivial))

/-- The value of the section on statements is checked as its demand asks. -/
theorem SqlSettings.check_answers {sql : SqlSettings} (h : sql.SaidBy root) :
    Answers (valueDemands root) (fun _ => True) sql.check := by
  obtain ⟨name, hname, hparamstyle⟩ := h
  have hknown : (∀ name, root.at? ["sql", "paramstyle"] = some (.text name) →
      Text.lower (Text.strip name) ∈ configParamstyles) ↔
      ¬ sql.paramstyle ∉ configParamstyles := by
    rw [Decidable.not_not, hparamstyle]
    exact forall_text_iff (P := fun name => Text.lower (Text.strip name) ∈ configParamstyles) hname
      (by decide +kernel)
  exact .check hknown (.pure trivial)

/-! ## Whole configurations -/

namespace Config

/-- What settings say. -/
structure SaidBy (envLevel : Option String) (root : Section) (config : Config) : Prop where
  /-- The first section says how the journal is kept. -/
  log : config.log.SaidBy envLevel root
  /-- The second section says how search strings are read. -/
  search : config.search.SaidBy root
  /-- The third section says how statements are written. -/
  sql : config.sql.SaidBy root

/-- All demands, in their order: first those on kinds, then those on values. -/
def demands (envLevel : Option String) (root : Section) : List Demand :=
  (LogSettings.kindDemands envLevel root ++ SearchSettings.kindDemands root ++
    SqlSettings.kindDemands root) ++
  (LogSettings.valueDemands envLevel root ++ SearchSettings.valueDemands root ++
    SqlSettings.valueDemands root)

/-- A configuration is read as all demands together ask. -/
theorem read_answers (envLevel : Option String) (root : Section) :
    Answers (demands envLevel root) (SaidBy envLevel root) (read envLevel root) := by
  unfold demands
  simp only [List.append_assoc]
  refine (LogSettings.read_answers envLevel root).bind fun log hlog => ?_
  refine (SearchSettings.read_answers root).bind fun search hsearch => ?_
  refine (SqlSettings.read_answers root).bind fun sql hsql => ?_
  refine (LogSettings.check_answers hlog).bind fun _ _ => ?_
  refine (SearchSettings.check_answers hsearch).bind fun _ _ => ?_
  rw [← List.append_nil (SqlSettings.valueDemands root)]
  exact (SqlSettings.check_answers hsql).bind fun _ _ => .pure ⟨hlog, hsearch, hsql⟩

/-- The settings that are accepted. -/
structure Acceptable (envLevel : Option String) (root : Section) : Prop where
  /-- There is a section on the journal. -/
  log : ∃ entries, root.at? ["log"] = some (.map entries)
  /-- A level is named, and it is a known one. -/
  level : ∃ name, LevelNamed envLevel root name ∧
    Text.upper name ∈ ["DEBUG", "INFO", "WARNING", "ERROR", "CRITICAL"]
  /-- Whether there are log files is told by a truth value. -/
  toFile : ∀ value, root.at? ["log", "to_file"] = some value → ∃ toFile, value = .bool toFile
  /-- The directory is told by a text, with more than blanks if there are log files. -/
  dir : ∀ value, root.at? ["log", "dir"] = some value → ∃ dir, value = .text dir ∧
    (root.at? ["log", "to_file"] = some (.bool true) → Text.allBlank dir = false)
  /-- There is a section on search strings. -/
  search : ∃ entries, root.at? ["search"] = some (.map entries)
  /-- There is a limit, and it is above zero. -/
  maxTerms : ∃ n, root.at? ["search", "max_terms"] = some (.int n) ∧ 0 < n
  /-- The relaxation is told by a text that names one. -/
  relaxation : ∀ value, root.at? ["search", "relaxation"] = some value → ∃ name,
    value = .text name ∧ Text.lower (Text.strip name) ∈ ["exhaustive", "tiered"]
  /-- The section on statements may be left out or be empty. -/
  sql : ∀ value, root.at? ["sql"] = some value → value = .null ∨ ∃ entries, value = .map entries
  /-- The parameter style is told by a text that names one. -/
  paramstyle : ∀ value, root.at? ["sql", "paramstyle"] = some value → ∃ name,
    value = .text name ∧ Text.lower (Text.strip name) ∈ ["qmark", "numeric"]

variable {envLevel : Option String} {root : Section}

/-- A mapping is there if something is that is not null, and nothing but null or a mapping is. -/
theorem exists_map_iff {found : Option Setting} :
    (∃ entries, found = some (.map entries)) ↔
      (∃ value, found = some value ∧ value ≠ .null) ∧
        ∀ value, found = some value → value = .null ∨ value.isMap = true := by
  constructor
  · rintro ⟨entries, rfl⟩
    exact ⟨⟨_, rfl, nofun⟩, fun value h => .inr (Option.some.inj h ▸ rfl)⟩
  · rintro ⟨⟨value, rfl, hvalue⟩, hmap⟩
    obtain ⟨entries, rfl⟩ := Setting.isMap_iff.1 ((hmap value rfl).resolve_left hvalue)
    exact ⟨entries, rfl⟩

/-- What is asked of a text may be asked in two steps: to be a text, and what the text has to be. -/
theorem forall_exists_text_iff {found : Option Setting} {P : String → Prop} :
    (∀ value, found = some value → ∃ name, value = .text name ∧ P name) ↔
      (∀ value, found = some value → ∃ name, value = .text name) ∧
        ∀ name, found = some (.text name) → P name := by
  constructor
  · intro h
    constructor
    · intro value hvalue
      obtain ⟨name, hname, -⟩ := h value hvalue
      exact ⟨name, hname⟩
    · intro name hfound
      obtain ⟨other, hother, hP⟩ := h _ hfound
      exact Setting.text.inj hother ▸ hP
  · rintro ⟨hkind, hP⟩ value rfl
    obtain ⟨name, rfl⟩ := hkind value rfl
    exact ⟨name, rfl, hP name rfl⟩

/-- What is asked of the limit may be asked in three steps: to be there, to be an integer, and to be
above zero. -/
theorem exists_positive_iff {found : Option Setting} :
    (∃ n, found = some (.int n) ∧ 0 < n) ↔
      found ≠ none ∧ (∀ value, found = some value → ∃ n, value = .int n) ∧
        ∀ n, found = some (.int n) → 0 < n := by
  constructor
  · rintro ⟨n, rfl, hn⟩
    refine ⟨nofun, fun value h => ⟨n, (Option.some.inj h).symm⟩, fun m h => ?_⟩
    exact Setting.int.inj (Option.some.inj h) ▸ hn
  · rintro ⟨hsome, hkind, hpositive⟩
    obtain ⟨value, rfl⟩ := Option.ne_none_iff_exists'.1 hsome
    obtain ⟨n, rfl⟩ := hkind value rfl
    exact ⟨n, rfl, hpositive n rfl⟩

/-- What is asked of the level may be asked in three steps as well, the first two only where the
environment names none. -/
theorem exists_level_iff :
    (∃ name, LevelNamed envLevel root name ∧ Text.upper name ∈ configLevels) ↔
    (Text.strip (envLevel.getD "") ≠ "" ∨ root.at? ["log", "level"] ≠ none) ∧
    (Text.strip (envLevel.getD "") ≠ "" ∨
      ∀ value, root.at? ["log", "level"] = some value → ∃ name, value = .text name) ∧
    ∀ name, LevelNamed envLevel root name → Text.upper name ∈ configLevels := by
  constructor
  · rintro ⟨name, hname, hlevel⟩
    refine ⟨?_, ?_, fun other hother => hother.unique hname ▸ hlevel⟩
    · cases hname with
      | environment h => exact .inl h
      | setting h hname => exact .inr (by simp [hname])
    · cases hname with
      | environment h => exact .inl h
      | setting h hname => exact .inr fun value hvalue =>
        ⟨_, (Option.some.inj (hname.symm.trans hvalue)).symm⟩
  · rintro ⟨hgiven, hkind, hlevel⟩
    by_cases hblank : Text.strip (envLevel.getD "") = ""
    · obtain ⟨value, hvalue⟩ :=
        Option.ne_none_iff_exists'.1 (hgiven.resolve_left (not_not_intro hblank))
      obtain ⟨name, rfl⟩ := hkind.resolve_left (not_not_intro hblank) value hvalue
      have hname : LevelNamed envLevel root name := .setting hblank hvalue
      exact ⟨name, hname, hlevel name hname⟩
    · have hname : LevelNamed envLevel root _ := .environment hblank
      exact ⟨_, hname, hlevel _ hname⟩

/-- The settings that are accepted are those that meet all demands. -/
theorem acceptable_iff :
    Acceptable envLevel root ↔ ∀ demand ∈ demands envLevel root, demand.Met := by
  have hlevels : ["DEBUG", "INFO", "WARNING", "ERROR", "CRITICAL"].Perm configLevels := by decide
  simp only [demands, LogSettings.kindDemands, SearchSettings.kindDemands, SqlSettings.kindDemands,
    LogSettings.valueDemands, SearchSettings.valueDemands, SqlSettings.valueDemands,
    List.cons_append, List.nil_append, List.forall_mem_cons]
  constructor
  · rintro ⟨hlog, ⟨name, hname, hlevel⟩, htoFile, hdir, hsearch, hmaxTerms, hrelaxation, hsql,
      hparamstyle⟩
    obtain ⟨hlogThere, hlogMap⟩ := exists_map_iff.1 hlog
    obtain ⟨hlevelThere, hlevelText, hlevelKnown⟩ :=
      exists_level_iff.1 ⟨name, hname, hlevels.mem_iff.1 hlevel⟩
    obtain ⟨hdirText, hdirPlace⟩ := forall_exists_text_iff.1 hdir
    obtain ⟨hsearchThere, hsearchMap⟩ := exists_map_iff.1 hsearch
    obtain ⟨hlimitThere, hlimitInt, hpositive⟩ := exists_positive_iff.1 hmaxTerms
    obtain ⟨hrelaxationText, hrelaxationKnown⟩ := forall_exists_text_iff.1 hrelaxation
    obtain ⟨hstyleText, hstyleKnown⟩ := forall_exists_text_iff.1 hparamstyle
    exact ⟨hlogThere, hlogMap, hlevelThere, hlevelText, htoFile, hdirText, hsearchThere, hsearchMap,
      hlimitThere, hlimitInt, hrelaxationText,
      fun value hvalue => (hsql value hvalue).imp_right Setting.isMap_iff.2, hstyleText,
      hlevelKnown, fun hfiles dir hdir => hdirPlace dir hdir hfiles, hpositive, hrelaxationKnown,
      hstyleKnown, List.forall_mem_nil _⟩
  · rintro ⟨hlogThere, hlogMap, hlevelThere, hlevelText, htoFile, hdirText, hsearchThere,
      hsearchMap, hlimitThere, hlimitInt, hrelaxationText, hsql, hstyleText, hlevelKnown, hdirPlace,
      hpositive, hrelaxationKnown, hstyleKnown, -⟩
    obtain ⟨name, hname, hlevel⟩ := exists_level_iff.2 ⟨hlevelThere, hlevelText, hlevelKnown⟩
    exact {
      log := exists_map_iff.2 ⟨hlogThere, hlogMap⟩
      level := ⟨name, hname, hlevels.mem_iff.2 hlevel⟩
      toFile := htoFile
      dir := forall_exists_text_iff.2 ⟨hdirText, fun dir hdir hfiles => hdirPlace hfiles dir hdir⟩
      search := exists_map_iff.2 ⟨hsearchThere, hsearchMap⟩
      maxTerms := exists_positive_iff.2 ⟨hlimitThere, hlimitInt, hpositive⟩
      relaxation := forall_exists_text_iff.2 ⟨hrelaxationText, hrelaxationKnown⟩
      sql := fun value hvalue => (hsql value hvalue).imp_right Setting.isMap_iff.1
      paramstyle := forall_exists_text_iff.2 ⟨hstyleText, hstyleKnown⟩ }

end Config

/-! ## The level from the environment -/

/-- A section that is a mapping is found. -/
theorem Section.required_of_lookup {entries : Section} {name : String}
    (h : root.lookup name = some (.map entries)) : root.required name = .ok entries := by
  unfold required
  rw [h]
  rfl

/-- The level that the environment names is taken without a look at the section. -/
theorem LogSettings.readLevel_of_environment (h : Text.strip (envLevel.getD "") ≠ "")
    (log : Section) : readLevel envLevel log = .ok (Text.strip (envLevel.getD "")) := by
  unfold readLevel
  rw [if_neg h]

/-- What is read about the journal once the level is known. -/
theorem LogSettings.read_of_readLevel {log : Section} {name : String}
    (hlog : root.lookup "log" = some (.map log)) (hname : readLevel envLevel log = .ok name) :
    read envLevel root = (do
      let toFile ← (log.valueOr "to_file" (.bool false)).asBool "log.to_file"
      let dir ← (log.valueOr "dir" (.text "log")).asText "log.dir"
      return ⟨Text.upper name, toFile, dir⟩) := by
  rw [read_eq, Section.required_of_lookup hlog]
  simp only [bind, Except.bind, hname]

/-- Under a level from the environment, settings that differ in their level only are read alike. -/
theorem Config.read_eq_of_environment (h : Text.strip (envLevel.getD "") ≠ "")
    {other log others : Section} (hlog : root.lookup "log" = some (.map log))
    (hother : other.lookup "log" = some (.map others))
    (hfields : ∀ field ≠ "level", log.lookup field = others.lookup field)
    (hnames : ∀ name ≠ "log", root.lookup name = other.lookup name) :
    read envLevel root = read envLevel other := by
  have hread : LogSettings.read envLevel root = LogSettings.read envLevel other := by
    rw [LogSettings.read_of_readLevel hlog (LogSettings.readLevel_of_environment h log),
      LogSettings.read_of_readLevel hother (LogSettings.readLevel_of_environment h others)]
    unfold Section.valueOr
    rw [hfields "to_file" (by decide), hfields "dir" (by decide)]
  have hsearch : SearchSettings.read root = SearchSettings.read other := by
    unfold SearchSettings.read Section.required
    rw [hnames "search" (by decide)]
  have hsql : SqlSettings.read root = SqlSettings.read other := by
    unfold SqlSettings.read Section.optional
    rw [hnames "sql" (by decide)]
  unfold read
  rw [hread, hsearch, hsql]

/-! ## Writing a configuration -/

namespace Config

/-- The settings that say what a configuration holds. -/
def toSection (config : Config) : Section := [
  ("log", .map [("level", .text config.log.level), ("to_file", .bool config.log.toFile),
    ("dir", .text config.log.dir)]),
  ("search", .map [("max_terms", .int config.search.maxTerms),
    ("relaxation", .text config.search.relaxation)]),
  ("sql", .map [("paramstyle", .text config.sql.paramstyle)])]

/-- The names of the levels are in capitals. -/
theorem upper_of_mem_configLevels {name : String} (h : name ∈ configLevels) :
    Text.upper name = name := by
  simp only [configLevels, List.mem_cons, List.not_mem_nil, or_false] at h
  rcases h with rfl | rfl | rfl | rfl | rfl <;> decide +kernel

/-- A configuration is read if all its sections are read and pass their checks. -/
theorem read_eq_ok_iff {config : Config} : read envLevel root = .ok config ↔
    (LogSettings.read envLevel root = .ok config.log ∧
      SearchSettings.read root = .ok config.search ∧ SqlSettings.read root = .ok config.sql) ∧
    config.log.check = .ok () ∧ config.search.check = .ok () ∧ config.sql.check = .ok () := by
  constructor
  · intro h
    obtain ⟨log, hlog, h⟩ := exists_of_bind_eq_ok h
    obtain ⟨search, hsearch, h⟩ := exists_of_bind_eq_ok h
    obtain ⟨sql, hsql, h⟩ := exists_of_bind_eq_ok h
    obtain ⟨_, hlogCheck, h⟩ := exists_of_bind_eq_ok h
    obtain ⟨_, hsearchCheck, h⟩ := exists_of_bind_eq_ok h
    obtain ⟨_, hsqlCheck, h⟩ := exists_of_bind_eq_ok h
    obtain rfl := Except.ok.inj h
    exact ⟨⟨hlog, hsearch, hsql⟩, hlogCheck, hsearchCheck, hsqlCheck⟩
  · rintro ⟨⟨hlog, hsearch, hsql⟩, hlogCheck, hsearchCheck, hsqlCheck⟩
    unfold read
    rw [hlog, hsearch, hsql]
    simp only [bind, Except.bind, hlogCheck, hsearchCheck, hsqlCheck]
    rfl

/-- The names of the relaxations are in small letters, without blanks at either end. -/
theorem lower_strip_relaxation (relaxation : Relaxation) :
    Text.lower (Text.strip relaxation.name) = relaxation.name := by
  cases relaxation <;> decide +kernel

/-- So are the names of the parameter styles. -/
theorem lower_strip_markStyle (style : MarkStyle) :
    Text.lower (Text.strip style.name) = style.name := by
  cases style <;> decide +kernel

/-- The level is read back: it stays as it is, and from the environment it is the same again. -/
theorem exists_readLevel_toSection {config : Config} (h : config.log.SaidBy envLevel root)
    (hlevel : config.log.level ∈ configLevels) {again : Option String}
    (hagain : Text.strip (again.getD "") = "" ∨ again = envLevel) :
    ∃ name, LogSettings.readLevel again [("level", .text config.log.level),
        ("to_file", .bool config.log.toFile), ("dir", .text config.log.dir)] = .ok name ∧
      Text.upper name = config.log.level := by
  by_cases hblank : Text.strip (again.getD "") = ""
  · refine ⟨config.log.level, ?_, upper_of_mem_configLevels hlevel⟩
    unfold LogSettings.readLevel
    rw [if_pos hblank]
    rfl
  · obtain rfl := hagain.resolve_left hblank
    obtain ⟨name, hname, hupper⟩ := h.level
    refine ⟨name, ?_, hupper.symm⟩
    rw [LogSettings.readLevel_of_environment hblank, hname.unique (.environment hblank)]

/-- An accepted configuration that is written as settings is read back, with the level from the
environment as before or without one. -/
theorem read_toSection {config : Config} (h : read envLevel root = .ok config)
    {again : Option String} (hagain : Text.strip (again.getD "") = "" ∨ again = envLevel) :
    read again config.toSection = .ok config := by
  have hsound := sound_of_read h
  have hsaid := (read_answers envLevel root).good_of_eq_ok h
  have hlog : LogSettings.read again config.toSection = .ok config.log := by
    obtain ⟨name, hname, hlevel⟩ := exists_readLevel_toSection hsaid.log hsound.level hagain
    rw [LogSettings.read_of_readLevel rfl hname, hlevel]
    rfl
  have hsearch : SearchSettings.read config.toSection = .ok config.search := by
    obtain ⟨relaxation, hrelaxation⟩ := hsound.relaxation
    have hread : SearchSettings.read config.toSection =
        .ok ⟨config.search.maxTerms, Text.lower (Text.strip config.search.relaxation)⟩ := rfl
    rw [hread, hrelaxation, lower_strip_relaxation, ← hrelaxation]
  have hsql : SqlSettings.read config.toSection = .ok config.sql := by
    obtain ⟨style, hstyle⟩ := hsound.paramstyle
    have hread : SqlSettings.read config.toSection =
        .ok ⟨Text.lower (Text.strip config.sql.paramstyle)⟩ := rfl
    rw [hread, hstyle, lower_strip_markStyle, ← hstyle]
  exact read_eq_ok_iff.2 ⟨⟨hlog, hsearch, hsql⟩, (read_eq_ok_iff.1 h).2⟩

/-- Settings are accepted if and only if they are acceptable, and then the configuration is what
they say. Otherwise the fault is that of the first demand that is not met. A level from the
environment makes no difference between settings that differ in their own level only. An accepted
configuration that is written as settings is read back. -/
theorem read_outcome (envLevel : Option String) (root : Section) :
    ((∃ config, read envLevel root = .ok config) ↔ Acceptable envLevel root) ∧
    (∀ fault, read envLevel root = .error fault ↔ FirstUnmet (demands envLevel root) fault) ∧
    (∀ config, read envLevel root = .ok config → config.SaidBy envLevel root) ∧
    (Text.strip (envLevel.getD "") ≠ "" → ∀ other log others,
      root.lookup "log" = some (.map log) → other.lookup "log" = some (.map others) →
      (∀ field ≠ "level", log.lookup field = others.lookup field) →
      (∀ name ≠ "log", root.lookup name = other.lookup name) →
      read envLevel root = read envLevel other) ∧
    ∀ config, read envLevel root = .ok config →
      ∀ again, Text.strip (again.getD "") = "" ∨ again = envLevel →
        read again config.toSection = .ok config := by
  have hanswers := read_answers envLevel root
  refine ⟨?_, fun fault => hanswers.eq_error_iff, fun config => hanswers.good_of_eq_ok, ?_, ?_⟩
  · rw [acceptable_iff]
    exact hanswers.exists_eq_ok_iff
  · intro h other log others hlog hother hfields hnames
    exact read_eq_of_environment h hlog hother hfields hnames
  · intro config hconfig again hagain
    exact read_toSection hconfig hagain

/-- The defaults are a configuration by themselves. -/
example : read none defaults =
    .ok ⟨⟨"INFO", false, "log"⟩, ⟨10, "exhaustive"⟩, ⟨"qmark"⟩⟩ := rfl

/-- A level that is a number is only a fault if the environment names none, and the fault comes
before that of the limit. -/
theorem read_outcome_environment :
    let search : Setting := .map [("max_terms", .int 4), ("relaxation", .text " Tiered ")]
    let root : Section := [("log", .map [("level", .int 3)]), ("search", search), ("sql", .null)]
    let other : Section := [("sql", .null), ("log", .map []), ("search", search)]
    (∃ config, read (some " debug ") root = .ok config ∧
      read (some "\t") config.toSection = .ok config) ∧
    read (some " debug ") root = read (some " debug ") other ∧
    read none [("log", .map [("level", .int 3)]), ("search", .map [("max_terms", .bool true)])] =
      .error (.notText "log.level") := by
  intro search root other
  have hstrip : Text.strip " debug " = "debug" := by decide +kernel
  have hnamed : Text.strip ((some " debug ").getD "") ≠ "" := by
    rw [Option.getD_some, hstrip]
    decide
  obtain ⟨haccept, -, -, hlevel, hagain⟩ := read_outcome (some " debug ") root
  obtain ⟨-, hfault, -⟩ := read_outcome none
    [("log", .map [("level", .int 3)]), ("search", .map [("max_terms", .bool true)])]
  refine ⟨?_, ?_, ?_⟩
  · obtain ⟨config, hconfig⟩ := haccept.2 {
      log := ⟨_, rfl⟩
      level := ⟨_, .environment hnamed, by rw [Option.getD_some, hstrip]; decide +kernel⟩
      toFile := by rintro value ⟨⟩
      dir := by rintro value ⟨⟩
      search := ⟨_, rfl⟩
      maxTerms := ⟨4, rfl, by decide⟩
      relaxation := by
        rintro value ⟨rfl⟩
        exact ⟨" Tiered ", rfl, by decide +kernel⟩
      sql := by
        rintro value ⟨rfl⟩
        exact .inl rfl
      paramstyle := by rintro value ⟨⟩ }
    exact ⟨config, hconfig, hagain config hconfig _ (.inl (by decide +kernel))⟩
  · refine hlevel hnamed other _ _ rfl rfl ?_ ?_
    · intro field hfield
      simp [List.lookup_cons, beq_false_of_ne hfield]
    · intro name hname
      by_cases hsql : name = "sql"
      · subst hsql
        rfl
      · simp [root, other, List.lookup_cons, beq_false_of_ne hname, beq_false_of_ne hsql]
  · have hblank : ¬ Text.strip ((none : Option String).getD "") ≠ "" := by decide +kernel
    refine (hfault _).2 (.later ⟨_, rfl, nofun⟩ (.later ?_ (.later (.inr nofun) (.here ?_))))
    · rintro value ⟨rfl⟩
      exact .inr rfl
    · rintro (hforced | htext)
      · exact hblank hforced
      · obtain ⟨name, hname⟩ := htext _ rfl
        cases hname

end Config

end StockQuery
