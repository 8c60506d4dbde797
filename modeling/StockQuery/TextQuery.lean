import StockQuery.Relaxation
import StockQuery.Search.Normal

/-!
# Full-text queries

The full-text query of a search is a progression of clauses, and a part ranks by the first clause
that it matches. Every choice of alternatives gives a block: with more than one term, a clause that
asks for the terms near each other and then one that asks for all of them. Terms to leave out are
excluded in every clause. A search without terms has no full-text query, whatever it leaves out.
-/

namespace StockQuery

/-- A clause of a full-text query, over one choice of alternatives. -/
inductive Clause where
  /-- The words stand near each other. -/
  | near (words : List String)
  /-- All the words occur. -/
  | every (words : List String)
deriving DecidableEq, Repr

namespace Clause

/-- How many words apart the terms of a near clause may be. -/
def nearDistance : Nat := 100

/-- The clause in the query language. -/
def text : Clause → String
  | near words =>
    "NEAR((" ++ String.intercalate ", " words ++ "), " ++ toString nearDistance ++ ", TRUE)"
  | every words => String.intercalate " AND " words

/-- The clauses of one choice of alternatives. -/
def block (choice : List String) : List Clause :=
  if 1 < choice.length then [near choice, every choice] else [every choice]

/-- The clauses for a list of terms, in the order of their rank. -/
def ofTerms (relaxation : Relaxation) (terms : List (List String)) :
    Except Failure (List Clause) :=
  (relaxation.choices terms).map (·.flatMap block)

end Clause

namespace TextQuery

/-- A step of a progression. -/
def step (text : String) : String := "<seq>" ++ text ++ "</seq>"

/-- What comes before the steps. -/
def opening : String := "<query><textquery lang=\"ENGLISH\" grammar=\"CONTEXT\"><progression>"

/-- What comes after the steps. -/
def closing : String := "</progression></textquery></query>"

/-- The condition that none of the negated terms occurs, if there are any. -/
def exclusion? (negations : List String) : Option String :=
  if negations.isEmpty then none
  else some ("NOT (" ++ String.intercalate " | " negations ++ ")")

/-- A clause together with the exclusion. -/
def clauseText (negations : List String) (clause : Clause) : String :=
  match exclusion? negations with
  | none => clause.text
  | some exclusion => clause.text ++ " " ++ exclusion

/-- A progression over clauses. -/
def ofClauses (negations : List String) (clauses : List Clause) : String :=
  opening
    ++ String.join (clauses.map fun clause => step ("(" ++ clauseText negations clause ++ ")"))
    ++ closing

/-- The full-text query of a search, if it has terms. -/
def ofNormal (relaxation : Relaxation) (query : NormalQuery) : Except Failure (Option String) :=
  if query.terms.isEmpty then .ok none
  else (Clause.ofTerms relaxation query.terms).map (some ∘ ofClauses query.negations)

end TextQuery

/-- A full-text query, if there is something to search for, and the filters. -/
structure RankedQuery where
  /-- The full-text query. -/
  textQuery : Option String
  /-- The filters in the order in which they are first named. -/
  filters : Filters := []
deriving DecidableEq, Repr

/-- The full-text query of a search under the relaxation of a name. -/
def NormalQuery.textQuery (relaxation : String) (query : NormalQuery) :
    Except Failure (Option String) := do
  TextQuery.ofNormal (← Relaxation.ofName relaxation) query

/-- Reads a search string into a full-text query and filters. A search string that is rejected is
rejected under every relaxation, also under one that does not exist. -/
def RankedQuery.parse (limit : Option Int) (relaxation raw : String) :
    Except Refusal RankedQuery := do
  let query ← (NormalQuery.parse limit raw).mapError .rejected
  let text ← (query.textQuery relaxation).mapError .failed
  return ⟨text, query.filters⟩

end StockQuery
