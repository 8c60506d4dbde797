import StockQuery.Journal
import StockQuery.Service
import StockQuery.Settings.Notation.Document
import StockQuery.Settings.Overlay

/-!
# Configuration

The configuration has three sections: how the journal is kept, how searches are read, and how
statements are written. All sections are read first, which finds what is missing or of the wrong
kind, and only then are their values checked. The environment may name the log level; the setting
is not looked at then.
-/

namespace StockQuery

/-- Settings of the journal. -/
structure LogSettings where
  /-- The name of the level for the console, in upper case. -/
  level : String
  /-- Whether each action keeps a file. -/
  toFile : Bool
  /-- The directory of log files. -/
  dir : String
deriving DecidableEq, Repr

/-- Settings for reading search strings. -/
structure SearchSettings where
  /-- The most terms that are neither quoted nor negated. -/
  maxTerms : Int
  /-- The name of the relaxation. -/
  relaxation : String
deriving DecidableEq, Repr

/-- Settings for writing statements. -/
structure SqlSettings where
  /-- The name of the parameter style. -/
  paramstyle : String
deriving DecidableEq, Repr

/-- A whole configuration. -/
structure Config where
  /-- How the journal is kept. -/
  log : LogSettings
  /-- How search strings are read. -/
  search : SearchSettings
  /-- How statements are written. -/
  sql : SqlSettings
deriving DecidableEq, Repr

/-! ## Reading the sections -/

/-- Reads the `log` section. `envLevel` is the level that the environment names, if it does. -/
def LogSettings.read (envLevel : Option String) (root : Section) :
    Except SettingsFault LogSettings := do
  let log ← root.required "log"
  let named := Text.strip (envLevel.getD "")
  let level ←
    if named = "" then (log.value "level" "log.level").bind (Setting.asText "log.level")
    else .ok named
  let toFile ← (log.valueOr "to_file" (.bool false)).asBool "log.to_file"
  let dir ← (log.valueOr "dir" (.text "log")).asText "log.dir"
  return ⟨Text.upper level, toFile, dir⟩

/-- Reads the `search` section. -/
def SearchSettings.read (root : Section) : Except SettingsFault SearchSettings := do
  let search ← root.required "search"
  let limit ← search.value "max_terms" "search.max_terms"
  let maxTerms ← limit.asInt "search.max_terms"
  let relaxation ←
    (search.valueOr "relaxation" (.text Relaxation.exhaustive.name)).asText "search.relaxation"
  return ⟨maxTerms, Text.lower (Text.strip relaxation)⟩

/-- Reads the `sql` section, which may be left out. -/
def SqlSettings.read (root : Section) : Except SettingsFault SqlSettings := do
  let sql ← root.optional "sql"
  let style ← (sql.valueOr "paramstyle" (.text MarkStyle.qmark.name)).asText "sql.paramstyle"
  return ⟨Text.lower (Text.strip style)⟩

/-! ## Checking their values -/

/-- The levels that a configuration may name. -/
def configLevels : List String := ["CRITICAL", "DEBUG", "ERROR", "INFO", "WARNING"]

/-- The relaxations that a configuration may name. -/
def configRelaxations : List String := [Relaxation.exhaustive.name, Relaxation.tiered.name]

/-- The parameter styles that a configuration may name. -/
def configParamstyles : List String := MarkStyle.all.map MarkStyle.name

/-- Log files need a directory with a name. -/
def LogSettings.check (log : LogSettings) : Except SettingsFault Unit :=
  if log.level ∉ configLevels then .error (.notAmong "log.level" configLevels)
  else if log.toFile && Text.allBlank log.dir then .error (.blank "log.dir")
  else .ok ()

/-- At least one term has to be allowed. -/
def SearchSettings.check (search : SearchSettings) : Except SettingsFault Unit :=
  if search.maxTerms ≤ 0 then .error (.notPositive "search.max_terms")
  else if search.relaxation ∉ configRelaxations then
    .error (.notAmong "search.relaxation" configRelaxations)
  else .ok ()

/-- The parameter style has to be known. -/
def SqlSettings.check (sql : SqlSettings) : Except SettingsFault Unit :=
  if sql.paramstyle ∉ configParamstyles then .error (.notAmong "sql.paramstyle" configParamstyles)
  else .ok ()

/-! ## Whole configurations -/

namespace Config

/-- Reads and checks a configuration. -/
def read (envLevel : Option String) (root : Section) : Except SettingsFault Config := do
  let log ← LogSettings.read envLevel root
  let search ← SearchSettings.read root
  let sql ← SqlSettings.read root
  log.check
  search.check
  sql.check
  return ⟨log, search, sql⟩

/-- The settings that hold where a file does not say otherwise. -/
def defaults : Section := [
  ("log", .map [("level", .text "INFO"), ("to_file", .bool false), ("dir", .text "log")]),
  ("search", .map [("max_terms", .int 10), ("relaxation", .text "exhaustive")]),
  ("sql", .map [("paramstyle", .text "qmark")])]

/-- Reads and checks the settings in the text of one file. -/
def ofText (envLevel : Option String) (text : String) : Except SettingsFault Config := do
  read envLevel (← Section.ofText text)

/-- Reads and checks the settings in the text of a file, laid over others. -/
def ofTextOver (envLevel : Option String) (base : Section) (text : String) :
    Except SettingsFault Config := do
  read envLevel (base.overlay (← Section.ofText text))

/-- The configuration for the text of a settings file, if there is one: it is laid over the
defaults. -/
def load (envLevel : Option String) : Option String → Except SettingsFault Config
  | none => read envLevel defaults
  | some text => ofTextOver envLevel defaults text

/-- What the configuration says about searches. -/
def searchOptions (config : Config) : SearchOptions where
  maxTerms := some config.search.maxTerms
  relaxation := config.search.relaxation
  paramstyle := config.sql.paramstyle

end Config

end StockQuery
