import StockQuery.Text.Blank
import StockQuery.Text.LetterCase
import StockQuery.Text.Quoted

/-!
# Filters

A filter such as `planner:jelliott` restricts one column of the parts table. The filters that a
search may use are a closed table, the registry. Its entries are declared as plain data and admitted
one by one, so that a table with a faulty entry is never used: every name in it is made of
lower-case letters, a line feed behind them aside, every filter has a column, and every filter can
format its values.
-/

namespace StockQuery

/-- A value of a filter. -/
inductive Criterion where
  /-- The column has to have the value. -/
  | plain (value : String)
  /-- The column must not have the value. -/
  | negated (value : String)
deriving DecidableEq, Repr

namespace Criterion

/-- The value when it is a plain one. -/
def plain? : Criterion → Option String
  | plain value => some value
  | negated _ => none

/-- The value when it is a negated one. -/
def negated? : Criterion → Option String
  | plain _ => none
  | negated value => some value

/-- The plain values and the negated values, each in their order. -/
def separate (values : List Criterion) : List String × List String :=
  (values.filterMap plain?, values.filterMap negated?)

end Criterion

/-- Filters by name, each with its values, in the order in which they are first named. -/
abbrev Filters := List (String × List Criterion)

/-- A filter that searches may use. -/
structure ColumnFilter where
  /-- The name in front of the colon. -/
  name : String
  /-- The column that the filter restricts. -/
  column : String
  /-- The form in which the column holds a value. -/
  format : String → String

/-- A filter as it is declared, before it is admitted. -/
structure FilterDeclaration where
  /-- The name in front of the colon. -/
  name : String
  /-- The column that the filter restricts. -/
  column : String
  /-- How values are formatted, if the declaration says so. -/
  format? : Option (String → String)

/-- Why a declared filter is not admitted. -/
inductive RegistryFault where
  /-- The name is not made of lower-case letters. -/
  | badName (name : String)
  /-- The column is blank. -/
  | noColumn (name : String)
  /-- Values cannot be formatted. -/
  | noFormat (name : String)
deriving DecidableEq, Repr

/-- The fault in words. -/
def RegistryFault.message : RegistryFault → String
  | badName name => "filter name must be lower-case letters: " ++ Text.quote name
  | noColumn name => "filter " ++ Text.quote name ++ " must map to a column"
  | noFormat name => "filter " ++ Text.quote name ++ " value formatter must be callable"

/-- The characters without one line feed at the end. -/
def dropFinalNewline (cs : List Char) : List Char :=
  if cs.getLast? = some '\n' then cs.dropLast else cs

/-- Whether a filter may have the name: one or more of the letters `a` to `z`. One line feed after
them is let through. -/
def isFilterName (name : String) : Bool :=
  let letters := dropFinalNewline name.toList
  !letters.isEmpty && letters.all Char.isLower

/-- The filter of a declaration, or the first thing that is wrong with it. -/
def FilterDeclaration.checked (d : FilterDeclaration) : Except RegistryFault ColumnFilter :=
  if !isFilterName d.name then .error (.badName d.name)
  else if Text.allBlank d.column then .error (.noColumn d.name)
  else
    match d.format? with
    | none => .error (.noFormat d.name)
    | some format => .ok ⟨d.name, d.column, format⟩

/-- Admits a table of filters, or names the fault of the first one that is not admitted. -/
def admitFilters (table : List FilterDeclaration) : Except RegistryFault (List ColumnFilter) :=
  table.mapM FilterDeclaration.checked

/-- The declared filters. The planner column holds names in upper case. -/
def declaredFilters : List FilterDeclaration := [⟨"planner", "ip.planner_buyer", some Text.upper⟩]

/-- The filters that searches may use, as the declared ones are admitted. -/
def registry : List ColumnFilter := [⟨"planner", "ip.planner_buyer", Text.upper⟩]

/-- The names of the registered filters, in registry order. -/
def filterNames : List String := registry.map ColumnFilter.name

/-- The registered filter of a name. -/
def findFilter (name : String) : Option ColumnFilter := registry.find? (·.name == name)

end StockQuery
