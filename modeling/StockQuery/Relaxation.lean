import StockQuery.Failure

/-!
# Relaxation

A search is relaxed step by step: first every term has to match in its most specific alternative,
then in wider ones. A relaxation decides which combinations of alternatives are tried, and in which
order. The exhaustive one takes them all, the first term varying slowest; the tiered one widens all
terms at the same time.

All combinations are enumerated by calls nested in one another, one for each term, and so only as
many terms can be exhausted as calls can be nested.
-/

namespace StockQuery

/-- The ways to relax a search. -/
inductive Relaxation where
  /-- Every combination of alternatives. -/
  | exhaustive
  /-- One combination for every tier. -/
  | tiered
deriving DecidableEq, Repr

namespace Relaxation

/-- The name of the relaxation in settings. -/
def name : Relaxation → String
  | exhaustive => "exhaustive"
  | tiered => "tiered"

/-- The relaxation of a name. -/
def ofName? (name : String) : Option Relaxation :=
  [exhaustive, tiered].find? (·.name == name)

/-- The relaxation of a name; a name that has none is a failure. -/
def ofName (name : String) : Except Failure Relaxation :=
  match ofName? name with
  | some relaxation => .ok relaxation
  | none => .error (.unsupportedRelaxation name)

variable {α : Type}

/-- Every choice of one alternative per term. The first term varies slowest and the last fastest. -/
def combinations : List (List α) → List (List α)
  | [] => [[]]
  | alternatives :: rest => alternatives.flatMap fun a => (combinations rest).map (a :: ·)

/-- The same with a bound on nested calls. A call sees to one term and leaves the others to further
calls, and the innermost one finds no term left. -/
def combinationsWithin : Nat → List (List α) → Option (List (List α))
  | 0, _ => none
  | _ + 1, [] => some [[]]
  | calls + 1, alternatives :: rest =>
    (alternatives.mapM fun a => (combinationsWithin calls rest).map (·.map (a :: ·))).map
      List.flatten

/-- The alternative that a term offers to a tier: its last one if it has too few. -/
def atTier (tier : Nat) (alternatives : List α) : Option α :=
  alternatives[min tier (alternatives.length - 1)]?

/-- The number of tiers: as many as the longest list of alternatives has entries. -/
def tierCount (terms : List (List α)) : Nat := (terms.map List.length).max?.getD 1

/-- One choice per tier, if every term has something to offer to it. -/
def tiers (terms : List (List α)) : Option (List (List α)) :=
  (List.range (tierCount terms)).mapM fun tier => terms.mapM (atTier tier)

/-- The choices that are tried, in the order of their rank. -/
def choices (relaxation : Relaxation) (terms : List (List α)) : Except Failure (List (List α)) :=
  match relaxation with
  | exhaustive => .ok (combinations terms)
  | tiered =>
    match tiers terms with
    | some choices => .ok choices
    | none => .error .missingAlternative

/-- Whether the choices can be enumerated with so many nested calls left. The tiers need no more of
them for more terms. -/
def fits (calls : Nat) (terms : List (List α)) : Relaxation → Bool
  | exhaustive => (combinationsWithin calls terms).isSome
  | tiered => true

end Relaxation

end StockQuery
