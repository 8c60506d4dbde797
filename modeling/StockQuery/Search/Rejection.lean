import StockQuery.Text.Quoted

/-!
# Rejected search strings

A search string that does not follow the grammar is answered with a rejection, which is a value and
not a failure: what is wrong, where, and the text from there on.
-/

namespace StockQuery

/-- What is wrong with a search string. -/
inductive Fault where
  /-- Two items touch each other. -/
  | missingSpace
  /-- No term starts where one has to. -/
  | missingTerm
  /-- A quotation mark is never closed. -/
  | openQuote
  /-- Nothing stands between two quotation marks. -/
  | emptyQuote
  /-- More expanding terms than the limit allows. -/
  | tooManyTerms (limit : Int)
deriving DecidableEq, Repr

/-- The fault in words. -/
def Fault.message : Fault → String
  | .missingSpace => "expected a space between search terms"
  | .missingTerm => "expected a search term"
  | .openQuote => "unterminated quoted term"
  | .emptyQuote => "empty quoted term"
  | .tooManyTerms limit => s!"too many search terms (at most {limit} unquoted terms)"

/-- What is said about a search string that was turned down. -/
structure Diagnosis where
  /-- The reason in words. -/
  message : String
  /-- The number of characters before the place in question. -/
  position : Int
  /-- The text from that place on. -/
  fragment : String
deriving DecidableEq, Repr

/-- The diagnosis on one line: the fragment is quoted. -/
def Diagnosis.summary (d : Diagnosis) : String :=
  d.message ++ " at position " ++ toString d.position ++ ": " ++ Text.quote d.fragment

/-- Why and where a search string was turned down. -/
structure Rejection where
  /-- The reason. -/
  fault : Fault
  /-- The number of characters before the fault. -/
  position : Nat
  /-- The text from the fault on. -/
  fragment : String
deriving DecidableEq, Repr

/-- The rejection in words. -/
def Rejection.diagnosis (r : Rejection) : Diagnosis := ⟨r.fault.message, r.position, r.fragment⟩

/-- The rejection on one line. -/
def Rejection.summary (r : Rejection) : String := r.diagnosis.summary

end StockQuery
