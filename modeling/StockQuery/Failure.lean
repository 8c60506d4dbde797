import StockQuery.Search.Rejection

/-!
# Failures

A failure is not a mistake in the search string: a setting names something that does not exist, a
search has more terms than can be enumerated, or running a statement goes wrong. It ends the request
that meets it and leaves nothing else changed.
-/

namespace StockQuery

/-- Why a request cannot be carried out. -/
inductive Failure where
  /-- No relaxation has the name. -/
  | unsupportedRelaxation (name : String)
  /-- A term without alternatives has nothing to offer to a tier. -/
  | missingAlternative
  /-- No parameter style has the name. -/
  | unsupportedParamstyle (name : String)
  /-- No filter is registered under the name. -/
  | unregisteredFilter (name : String)
  /-- Calls would have to be nested deeper than is possible. -/
  | tooDeep
  /-- There is a statement to run and nothing to run it. -/
  | noExecutor
  /-- The executor could not run a statement. -/
  | executorFailed (text : String)
deriving DecidableEq, Repr

/-- The failure in words. -/
def Failure.message : Failure → String
  | .unsupportedRelaxation name => "Unsupported relaxation: " ++ name
  | .missingAlternative => "tuple index out of range"
  | .unsupportedParamstyle name => "Unsupported paramstyle: " ++ name
  | .unregisteredFilter name => Text.quote name
  | .tooDeep => "maximum recursion depth exceeded"
  | .noExecutor => "No query executor is configured"
  | .executorFailed text => text

/-- Why a search string leads to no result: it is rejected, or the request fails. -/
inductive Refusal where
  /-- The search string is at fault. -/
  | rejected (rejection : Rejection)
  /-- The request is at fault. -/
  | failed (failure : Failure)
deriving DecidableEq, Repr

end StockQuery
