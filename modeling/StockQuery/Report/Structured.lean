import StockQuery.Report.Document
import StockQuery.Service

/-!
# Structured reports

What the commands print for programs: a prepared search and a rejection as JSON.
-/

namespace StockQuery.Report

/-- A criterion: a negated one is wrapped in an object. -/
def criterionDocument : Criterion → Document
  | .plain value => .text value
  | .negated value => .object [("not", .text value)]

/-- Filters by name. -/
def filtersDocument (filters : Filters) : Document :=
  .object (filters.map fun (name, values) => (name, .list (values.map criterionDocument)))

/-- A text or nothing. -/
def textDocument : Option String → Document
  | none => .null
  | some text => .text text

/-- A prepared search. -/
def preparedDocument (prepared : SearchPlan) : Document :=
  .object [
    ("text_query", textDocument prepared.query.textQuery),
    ("filters", filtersDocument prepared.query.filters),
    ("sql", textDocument (prepared.statement.map Statement.sql)),
    ("params", .list (((prepared.statement.map Statement.params).getD []).map .text))]

/-- A rejected search string. -/
def diagnosisDocument (d : Diagnosis) : Document :=
  .object [
    ("error", .object [
      ("message", .text d.message),
      ("position", .int d.position),
      ("fragment", .text d.fragment)])]

/-- A prepared search, one entry per line. -/
def preparedJson (prepared : SearchPlan) : String := (preparedDocument prepared).indented 0

/-- A rejected search string on one line. -/
def diagnosisJson (d : Diagnosis) : String := (diagnosisDocument d).oneLine

end StockQuery.Report
