import StockQuery.Proofs.Choices
import StockQuery.TextQuery

/-!
# The characters of a full-text query

A full-text query as a list of characters: the opening, one step for every clause, and the closing.
-/

namespace StockQuery

/-! ## Clauses -/

namespace Clause

/-- The first clause of a block. -/
def lead (choice : List String) : Clause :=
  if 1 < choice.length then near choice else every choice

/-- Every block starts with its proximity clause. -/
theorem block_eq_lead_cons (choice : List String) :
    ∃ more, block choice = lead choice :: more := by
  unfold block lead
  split
  · exact ⟨[every choice], rfl⟩
  · exact ⟨[], rfl⟩

theorem toList_near (words : List String) :
    (near words).text.toList = "NEAR((".toList ++
      (", ".toList.intercalate (words.map String.toList) ++ "), 100, TRUE)".toList) := by
  have hdistance : toString nearDistance = "100" := by decide
  simp [text, hdistance]

theorem toList_every (words : List String) :
    (every words).text.toList = " AND ".toList.intercalate (words.map String.toList) := by
  simp [text]

end Clause

/-! ## Steps -/

namespace TextQuery

/-- What a clause says about the terms to leave out. -/
def exclusionChars (negations : List String) : List Char :=
  if negations = [] then []
  else " NOT (".toList ++ (" | ".toList.intercalate (negations.map String.toList) ++ [')'])

/-- With a negation there is, the exclusion is one bracket over all of them. -/
theorem exclusionChars_of_ne_nil {negations : List String} (h : negations ≠ []) :
    exclusionChars negations =
      " NOT (".toList ++ (" | ".toList.intercalate (negations.map String.toList) ++ [')']) :=
  if_neg h

/-- The step of a clause. -/
def stepChars (negations : List String) (clause : Clause) : List Char :=
  "<seq>(".toList ++ (clause.text.toList ++ (exclusionChars negations ++ ")</seq>".toList))

theorem stepChars_eq (negations : List String) (clause : Clause) :
    stepChars negations clause = "<seq>(".toList ++
      (clause.text.toList ++ (exclusionChars negations ++ ")</seq>".toList)) := rfl

theorem toList_clauseText (negations : List String) (clause : Clause) :
    (clauseText negations clause).toList = clause.text.toList ++ exclusionChars negations := by
  cases negations with
  | nil => simp [clauseText, exclusion?, exclusionChars]
  | cons value more => simp [clauseText, exclusion?, exclusionChars]

theorem toList_step (negations : List String) (clause : Clause) :
    (step ("(" ++ clauseText negations clause ++ ")")).toList = stepChars negations clause := by
  simp [step, stepChars_eq, toList_clauseText]

/-- A text query consists of its opening, the steps in turn and its closing. -/
theorem toList_ofClauses (negations : List String) (clauses : List Clause) :
    (ofClauses negations clauses).toList =
      opening.toList ++ (clauses.flatMap (stepChars negations) ++ closing.toList) := by
  simp only [ofClauses, String.toList_append, String.toList_join, List.flatMap_map, toList_step,
    List.append_assoc]

end TextQuery

/-! ## The query of a search -/

theorem Relaxation.ofName_name (relaxation : Relaxation) :
    Relaxation.ofName relaxation.name = .ok relaxation := by
  cases relaxation <;> decide

theorem Relaxation.ofName_of_notMem {name : String} (h : name ∉ ["exhaustive", "tiered"]) :
    ofName name = .error (.unsupportedRelaxation name) := by
  have hnone : ofName? name = none := by
    rw [ofName?, List.find?_eq_none]
    intro relaxation _ heq
    rw [← eq_of_beq heq] at h
    cases relaxation <;> exact h (by decide)
  rw [ofName, hnone]

theorem Relaxation.exists_name_eq {name : String} (h : name ∈ ["exhaustive", "tiered"]) :
    ∃ relaxation : Relaxation, name = relaxation.name := by
  rw [List.mem_cons, List.mem_singleton] at h
  rcases h with h | h
  · exact ⟨exhaustive, h⟩
  · exact ⟨tiered, h⟩

/-- Every term can be looked for in some form. -/
theorem Term.alternatives_ne_nil (t : Term) : t.alternatives ≠ [] := by
  unfold Term.alternatives
  split <;> simp

/-- A search with terms has the query of its choices. -/
theorem NormalQuery.textQuery_eq {relaxation : Relaxation} {q : NormalQuery}
    {choices : List (List String)} (hne : q.terms ≠ [])
    (h : relaxation.choices q.terms = .ok choices) :
    q.textQuery relaxation.name =
      .ok (some (TextQuery.ofClauses q.negations (choices.flatMap Clause.block))) := by
  have hempty : q.terms.isEmpty = false := by simpa using hne
  rw [NormalQuery.textQuery, Relaxation.ofName_name]
  show TextQuery.ofNormal relaxation q = _
  simp [TextQuery.ofNormal, hempty, Clause.ofTerms, h, Except.map]

/-- An accepted search string is read as the normal form of its tree. -/
theorem NormalQuery.parse_of_tree {limit : Option Int} {raw : String} {tree : Tree}
    (h : Search.parse filterNames limit raw = .ok tree) : parse limit raw = .ok (ofTree tree) := by
  rw [parse, h]
  rfl

/-- What a search string is read as goes through normalization and the clauses in turn. -/
theorem RankedQuery.parse_of_tree {limit : Option Int} {relaxation raw : String} {tree : Tree}
    {textQuery : Option String} (hparse : Search.parse filterNames limit raw = .ok tree)
    (h : (NormalQuery.ofTree tree).textQuery relaxation = .ok textQuery) :
    parse limit relaxation raw = .ok ⟨textQuery, (NormalQuery.ofTree tree).filters⟩ := by
  rw [parse, NormalQuery.parse_of_tree hparse]
  show (((NormalQuery.ofTree tree).textQuery relaxation).mapError Refusal.failed).bind _ = _
  rw [h]
  rfl

/-- A search string with terms has the query of the choices for its tree. -/
theorem RankedQuery.parse_eq {limit : Option Int} {raw : String} {tree : Tree}
    {relaxation : Relaxation} {choices : List (List String)}
    (hparse : Search.parse filterNames limit raw = .ok tree)
    (hne : (NormalQuery.ofTree tree).terms ≠ [])
    (h : relaxation.choices (NormalQuery.ofTree tree).terms = .ok choices) :
    RankedQuery.parse limit relaxation.name raw = .ok ⟨some (TextQuery.ofClauses
      (NormalQuery.ofTree tree).negations (choices.flatMap Clause.block)),
      (NormalQuery.ofTree tree).filters⟩ :=
  parse_of_tree hparse (NormalQuery.textQuery_eq hne h)

end StockQuery
