/-!
# Search trees

What a search string says, item by item: words to look for, and filters such as `planner:jelliott`
that restrict a column. Either may be negated by a leading hyphen.
-/

namespace StockQuery

/-- A word or a quoted text to search for. -/
structure Term where
  /-- The text, without quotation marks and sign. -/
  text : String
  /-- Whether the text was quoted, so that it only matches exactly. -/
  literal : Bool := false
  /-- Whether parts that match are left out. -/
  negated : Bool := false
deriving DecidableEq, Repr

/-- A filter with its values in the order given, empty slots between commas left out. -/
structure FilterItem where
  /-- The name of the filter. -/
  name : String
  /-- The values it lists. -/
  values : List String
  /-- Whether the listed values are the ones to leave out. -/
  negated : Bool := false
deriving DecidableEq, Repr

/-- One item of a search string. -/
inductive Node where
  /-- A term. -/
  | term (term : Term)
  /-- A filter. -/
  | filter (item : FilterItem)
deriving DecidableEq, Repr

/-- The items of a search string from left to right. -/
abbrev Tree := List Node

/-- Whether the term has more than one alternative: neither quoted nor negated. -/
def Term.expands (t : Term) : Bool := !t.literal && !t.negated

/-- Whether the item counts towards the limit on terms. -/
def Node.expands : Node → Bool
  | .term t => t.expands
  | .filter _ => false

end StockQuery
