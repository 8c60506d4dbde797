import StockQuery.Service

/-!
# Plain reports

What the commands print for people: a statement with its parameters, how a search was understood,
and where a search string is at fault.
-/

namespace StockQuery.Report

/-- Lines one below the other. -/
def ofLines (lines : List String) : String := String.intercalate "\n" lines

/-- A statement and its numbered parameters. -/
def statement : Option Statement → String
  | none => "(no statement: nothing to search for)"
  | some s =>
    ofLines ([s.sql, "", "params:"] ++ s.params.mapIdx fun index param =>
      "  " ++ toString (index + 1) ++ ": " ++ param)

/-- A criterion: a hyphen marks a negated one. -/
def criterion : Criterion → String
  | .plain value => value
  | .negated value => "-" ++ value

/-- A full-text query, if it is there and not empty. -/
def textQueryLine : Option String → String
  | none => "  (none)"
  | some text => if text = "" then "  (none)" else "  " ++ text

/-- How a search is understood. -/
def explanation (query : NormalQuery) (textQuery : Option String) : String :=
  ofLines (
    "terms:" :: query.terms.map (fun alternatives =>
      "  - " ++ String.intercalate " | " alternatives)
    ++ "negations:" :: query.negations.map ("  - " ++ ·)
    ++ "filters:" :: query.filters.map (fun (name, values) =>
      "  " ++ name ++ ": " ++ String.intercalate ", " (values.map criterion))
    ++ ["text query:", textQueryLine textQuery])

/-- A rejected search string, with a caret below the place of the fault. -/
def diagnosis (d : Diagnosis) : String :=
  "Invalid search: " ++ d.summary ++ "\n  " ++ d.fragment ++ "\n  ^"

end StockQuery.Report
