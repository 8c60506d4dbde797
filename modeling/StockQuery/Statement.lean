import StockQuery.TextQuery

/-!
# Statements

A search becomes one SQL statement over the tables of inventory parts, ranked by how well a part
matches the full-text query. Nothing that a user typed stands in the SQL text: each value is bound
to a mark, and the marks are numbered from left to right.

The text is built as a list of pieces, fixed text and numbered marks, and only then written in a
parameter style. A style therefore decides how a mark is spelled and nothing else, and the numbers
of the marks are the places of their values among the parameters.
-/

namespace StockQuery

/-! ## Marks -/

/-- How marks are written. -/
inductive MarkStyle where
  /-- A question mark. -/
  | qmark
  /-- A colon and the number of the mark. -/
  | numeric
deriving DecidableEq, Repr

namespace MarkStyle

/-- The name of the style in settings. -/
def name : MarkStyle → String
  | qmark => "qmark"
  | numeric => "numeric"

/-- All styles. -/
def all : List MarkStyle := [qmark, numeric]

/-- The style of a name. -/
def ofName? (name : String) : Option MarkStyle := all.find? (·.name == name)

/-- The style of a name; a name that has none is a failure. -/
def ofName (name : String) : Except Failure MarkStyle :=
  match ofName? name with
  | some style => .ok style
  | none => .error (.unsupportedParamstyle name)

/-- The mark of a number. -/
def mark : MarkStyle → Nat → String
  | qmark, _ => "?"
  | numeric, number => ":" ++ toString number

end MarkStyle

/-- A piece of SQL text. -/
inductive Piece where
  /-- Text that is the same for all searches of the same shape. -/
  | fixed (text : String)
  /-- A mark. -/
  | mark (number : Nat)
deriving DecidableEq, Repr

/-- The piece in a parameter style. -/
def Piece.text (style : MarkStyle) : Piece → String
  | fixed text => text
  | mark number => style.mark number

/-- Pieces one after the other in a parameter style. -/
def Piece.write (style : MarkStyle) (pieces : List Piece) : String :=
  String.join (pieces.map (Piece.text style))

/-- Conditions that all have to hold. -/
def Piece.conjunction (conditions : List (List Piece)) : List Piece :=
  [.fixed " AND "].intercalate conditions

/-- Conditions that all have to hold, in brackets if there is more than one. -/
def Piece.bracketed : List (List Piece) → List Piece
  | [condition] => condition
  | conditions => .fixed "(" :: conjunction conditions ++ [.fixed ")"]

/-! ## Conditions of a filter -/

/-- A condition on one column: its value is, or is not, among those listed. -/
structure Restriction where
  /-- The column. -/
  column : String
  /-- Whether the listed values are the ones to leave out. -/
  excluded : Bool
  /-- The listed values as the column holds them. -/
  values : List String
deriving DecidableEq, Repr

namespace Restriction

/-- The word between the column and the list. -/
def relation (r : Restriction) : String := if r.excluded then " NOT IN " else " IN "

/-- The condition, with its marks numbered from `first`. -/
def pieces (first : Nat) (r : Restriction) : List Piece :=
  .fixed ("(" ++ r.column ++ r.relation ++ "(")
    :: ((List.range' first r.values.length).map Piece.mark).intersperse (.fixed ", ")
    ++ [.fixed "))"]

/-- The restrictions of a filter: on its plain values, then on its negated ones, each only if there
are such values. -/
def ofValues (spec : ColumnFilter) (values : List Criterion) : List Restriction :=
  let (plain, negated) := Criterion.separate values
  [Restriction.mk spec.column false (plain.map spec.format),
    Restriction.mk spec.column true (negated.map spec.format)].filter (!·.values.isEmpty)

/-- Restrictions one after the other, with their marks numbered from `first`. -/
def numberFrom (first : Nat) : List Restriction → List (List Piece)
  | [] => []
  | r :: rest => r.pieces first :: numberFrom (first + r.values.length) rest

end Restriction

/-- What a filter adds to a statement. -/
structure Conditions where
  /-- The conditions. -/
  clauses : List (List Piece)
  /-- The values of the marks in them. -/
  params : List String
deriving DecidableEq, Repr

namespace Conditions

/-- The conditions of restrictions, with marks numbered from `first`. -/
def ofRestrictions (first : Nat) (restrictions : List Restriction) : Conditions where
  clauses := Restriction.numberFrom first restrictions
  params := restrictions.flatMap Restriction.values

/-- The conditions of a filter, with marks numbered from `first`. -/
def ofFilter (first : Nat) (name : String) (values : List Criterion) :
    Except Failure Conditions :=
  match findFilter name with
  | none => .error (.unregisteredFilter name)
  | some spec => .ok (ofRestrictions first (Restriction.ofValues spec values))

/-- The conditions of one filter after the other, with marks numbered from `first` throughout. A
filter that is not registered uses up no number. -/
def ofFiltersFrom (first : Nat) : List (String × List Criterion) →
    List (Except Failure Conditions)
  | [] => []
  | (name, values) :: rest =>
    match ofFilter first name values with
    | .error failure => .error failure :: ofFiltersFrom first rest
    | .ok conditions => .ok conditions :: ofFiltersFrom (first + conditions.params.length) rest

/-- The condition of a filter as a whole, if it has any. -/
def whole? (conditions : Conditions) : Option (List Piece) :=
  if conditions.clauses.isEmpty then none else some (Piece.bracketed conditions.clauses)

end Conditions

/-! ## Statements -/

/-- An SQL statement with the values of its marks. -/
structure Statement where
  /-- The SQL text. -/
  sql : String
  /-- The value of each mark, in order. -/
  params : List String
deriving DecidableEq, Repr

namespace Statement

/-- The columns of a result. -/
def columns : List String := [
  "ip.part_no AS id",
  "ipcp.cust_part_no AS customer_part",
  "ipcp.issue",
  "ipcp.description",
  "ip.description AS full_description",
  "decode(ip.type_code_db, 3, 'Raw', ip.type_code) AS type",
  "ip.part_status AS status_code",
  "initcap(ps.description) AS status"]

/-- The tables and how their rows are joined. -/
def tables : String :=
  "FROM ifsapp.inventory_part ip"
    ++ " INNER JOIN ifsinfo.inv_part_cust_part_no ipcp"
    ++ " ON ip.part_no = ipcp.part_no"
    ++ " INNER JOIN ifsapp.inventory_part_status_par ps"
    ++ " ON ip.part_status = ps.part_status"

/-- The best match comes first. -/
def order : String := "ORDER BY score(1) DESC, ip.description DESC"

/-- The condition that a part matches the full-text query, which is the first parameter. -/
def matchCondition : List Piece := [.fixed "contains(ip.text_id$, ", .mark 1, .fixed ", 1) > 0"]

/-- All conditions of a statement: the match, then those of the filters. -/
def condition (conditions : List Conditions) : List Piece :=
  Piece.bracketed (matchCondition :: conditions.filterMap Conditions.whole?)

/-- The SQL text for the conditions of the filters. -/
def pieces (conditions : List Conditions) : List Piece :=
  .fixed ("SELECT " ++ String.intercalate ", " columns ++ " " ++ tables ++ " WHERE ")
    :: condition conditions ++ [.fixed (" " ++ order)]

/-- The statement for a full-text query and the conditions of the filters. -/
def ofConditions (style : MarkStyle) (textQuery : String) (conditions : List Conditions) :
    Statement where
  sql := Piece.write style (pieces conditions)
  params := textQuery :: conditions.flatMap Conditions.params

end Statement

/-- The statement of a query under the parameter style of a name. A query that searches for nothing
has none, whatever the style and the filters. -/
def RankedQuery.compile (paramstyle : String) (query : RankedQuery) :
    Except Failure (Option Statement) :=
  match query.textQuery with
  | none => .ok none
  | some text => do
    let style ← MarkStyle.ofName paramstyle
    let conditions ← (Conditions.ofFiltersFrom 2 query.filters).mapM id
    return some (Statement.ofConditions style text conditions)

end StockQuery
