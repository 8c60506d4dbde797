import StockQuery.Command

/-!
# Command lines

A command line names a settings file, if there is one besides the defaults, then the command, and
then its options and the search string in any order. A search string that starts with a hyphen
stands after `--`.
-/

namespace StockQuery

/-- What a command line asks for. -/
structure Arguments where
  /-- The settings file to lay over the defaults. -/
  config : Option String
  /-- The command. -/
  command : Command
  /-- The search string. -/
  query : String
deriving DecidableEq, Repr

namespace Arguments

/-- The formats that a command line may name. -/
def formats : List String := ["text", "json"]

/-- Reads a search string that nothing may follow. -/
def readQuery : List String → Option String
  | ["--", query] => some query
  | [query] => if query.startsWith "-" then none else some query
  | _ => none

/-- Reads the options of `compile` and the search string. Of repeated options the last one
counts. -/
def readCompile (format : String) : List String → Option (OutputFormat × String)
  | "--format" :: name :: rest => if formats.contains name then readCompile name rest else none
  | [query, "--format", name] =>
    if formats.contains name then (readQuery [query]).map (.ofName name, ·) else none
  | rest => (readQuery rest).map (.ofName format, ·)

/-- Reads a command line from its first option on, with the settings file named so far. -/
def readFrom (config : Option String) : List String → Option Arguments
  | "--config" :: path :: rest => readFrom (some path) rest
  | "compile" :: rest => (readCompile "text" rest).map fun (format, query) =>
    ⟨config, .compile format, query⟩
  | "explain" :: rest => (readQuery rest).map (⟨config, .explain, ·⟩)
  | _ => none

/-- Reads a command line. -/
def read (args : List String) : Option Arguments := readFrom none args

/-- How a command line is written. -/
def usage : String :=
  "usage: [--config FILE] (compile [--format text|json] | explain) [--] QUERY"

end Arguments

end StockQuery
