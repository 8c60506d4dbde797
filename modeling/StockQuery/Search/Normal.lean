import StockQuery.Entries
import StockQuery.Filter
import StockQuery.Search.Reader

/-!
# Normal form of a search

A search tree is sorted by kind: the terms to look for, the terms to leave out, and the filters. A
term is looked for in one of its alternatives, the most specific first: `{term}` matches exactly,
and `%term%`, for a term that is neither quoted nor negated, matches as a part of a word. Within a
kind the order of the search string is kept, and the values of a filter that is named repeatedly
are put together where it is first named.
-/

namespace StockQuery

/-! ## The text of a term -/

/-- Characters that a term cannot hold in a full-text query. -/
def isForbidden (c : Char) : Bool :=
  ['"', '\'', '(', ')', '[', ']', '\x7b', '\x7d', ',', '.', '*', '?', '_'].contains c

/-- Characters that a full-text query reads as operators unless a backslash comes first. -/
def isOperator (c : Char) : Bool :=
  ['&', '=', '\\', '-', ';', '~', '|', '$', '!', '>'].contains c

/-- Leaves out the forbidden characters. -/
def sanitizeChars (cs : List Char) : List Char := cs.filter (!isForbidden ·)

/-- A character with a backslash before it if it is an operator. -/
def escapeChar (c : Char) : List Char := if isOperator c then ['\\', c] else [c]

/-- Puts a backslash before every operator. -/
def escapeChars (cs : List Char) : List Char := cs.flatMap escapeChar

/-- The text without forbidden characters. -/
def sanitize (s : String) : String := String.ofList (sanitizeChars s.toList)

/-- The text with a backslash before every operator. -/
def escapeOperators (s : String) : String := String.ofList (escapeChars s.toList)

@[simp] theorem toList_sanitize (s : String) : (sanitize s).toList = sanitizeChars s.toList := by
  simp [sanitize]

@[simp] theorem toList_escapeOperators (s : String) :
    (escapeOperators s).toList = escapeChars s.toList := by
  simp [escapeOperators]

/-- The alternative that matches a value exactly. -/
def exactForm (value : String) : String := "\x7b" ++ value ++ "\x7d"

/-- The alternative that matches a value as a part of a word. -/
def wildcardForm (value : String) : String := "%" ++ escapeOperators value ++ "%"

/-- The term as it is matched exactly. -/
def Term.exact (t : Term) : String := exactForm (sanitize t.text)

/-- The alternatives of a term, the most specific first. -/
def Term.alternatives (t : Term) : List String :=
  if t.expands then [t.exact, wildcardForm (sanitize t.text)] else [t.exact]

/-! ## Trees in normal form -/

/-- A search sorted by kind. -/
structure NormalQuery where
  /-- The alternatives of each term to look for. -/
  terms : List (List String) := []
  /-- The terms to leave out, in exact form. -/
  negations : List String := []
  /-- The filters in the order in which they are first named. -/
  filters : Filters := []
deriving DecidableEq, Repr

/-- The values of a filter item, each marked if the item is negated. -/
def FilterItem.criteria (f : FilterItem) : List Criterion :=
  f.values.map (if f.negated then .negated else .plain)

/-- Adds the values of an item to those its filter has. -/
def Filters.add (filters : Filters) (f : FilterItem) : Filters :=
  Entries.amend f.name (fun old => old.getD [] ++ f.criteria) filters

/-- The term of an item, if it is one that is looked for. -/
def Node.wanted? : Node → Option Term
  | .term t => if t.negated then none else some t
  | .filter _ => none

/-- The term of an item, if it is one that is left out. -/
def Node.unwanted? : Node → Option Term
  | .term t => if t.negated then some t else none
  | .filter _ => none

/-- The filter of an item, if it is one. -/
def Node.filter? : Node → Option FilterItem
  | .term _ => none
  | .filter f => some f

/-- The normal form of a search tree. -/
def NormalQuery.ofTree (tree : Tree) : NormalQuery where
  terms := (tree.filterMap Node.wanted?).map Term.alternatives
  negations := (tree.filterMap Node.unwanted?).map Term.exact
  filters := (tree.filterMap Node.filter?).foldl Filters.add []

/-- Reads a search string with the registered filters and sorts it by kind. -/
def NormalQuery.parse (limit : Option Int) (raw : String) : Except Rejection NormalQuery :=
  (Search.parse filterNames limit raw).map NormalQuery.ofTree

end StockQuery
