import StockQuery.Proofs.Markup
import StockQuery.Proofs.Ranking
import Mathlib.Algebra.BigOperators.Group.List.Basic

/-!
# The size of a full-text query

A limit on the unquoted terms of a search bounds the number of clauses of its query, because each
such term doubles the number of choices (`Relaxation.length_ranked_exhaustive`) and each choice has
at most two clauses. The bound is sharp: no two clauses of a query are the same text
(`nodup_clauseTexts`), also where terms are repeated or have nothing left of them in the query.
-/

namespace StockQuery

/-! ## The number of choices -/

namespace Relaxation

theorem length_combinations {α : Type} (terms : List (List α)) :
    (combinations terms).length = (terms.map List.length).prod := by
  induction terms with
  | nil => rfl
  | cons alternatives terms ih =>
    have hblock : ∀ a ∈ alternatives,
        ((combinations terms).map (a :: ·)).length = (combinations terms).length :=
      fun a _ => List.length_map _
    rw [combinations, List.length_flatMap, List.map_congr_left hblock, List.map_const',
      List.sum_replicate_nat, ih, List.map_cons, List.prod_cons]

theorem prod_length_alternatives (terms : List Term) :
    ((terms.map Term.alternatives).map List.length).prod = 2 ^ terms.countP Term.expands := by
  induction terms with
  | nil => rfl
  | cons t terms ih =>
    rw [List.map_cons, List.map_cons, List.prod_cons, ih]
    by_cases ht : t.expands = true
    · rw [List.countP_cons_of_pos ht, Nat.pow_succ, Nat.mul_comm, Term.alternatives, if_pos ht]
      rfl
    · rw [List.countP_cons_of_neg ht, Term.alternatives, if_neg ht, List.length_singleton,
        Nat.one_mul]

theorem length_ranked_exhaustive (terms : List Term) :
    (exhaustive.ranked terms).length = 2 ^ terms.countP Term.expands := by
  rw [ranked, length_combinations, prod_length_alternatives]

theorem length_ranked_tiered (terms : List Term) :
    (tiered.ranked terms).length = if terms.countP Term.expands = 0 then 1 else 2 := by
  rw [ranked]
  by_cases hany : terms.any Term.expands = true
  · have hpos : 0 < terms.countP Term.expands := List.countP_pos_iff.2 (List.any_eq_true.1 hany)
    rw [if_pos hany, if_neg (by omega)]
    rfl
  · have hzero : terms.countP Term.expands = 0 :=
      List.countP_eq_zero.2 (List.any_eq_false.1 (Bool.eq_false_iff.2 hany))
    rw [if_neg hany, if_pos hzero]
    rfl

end Relaxation

/-! ## The number of clauses -/

theorem Clause.length_block (choice : List String) :
    (block choice).length = if choice.length ≤ 1 then 1 else 2 := by
  unfold block
  by_cases hlen : 1 < choice.length
  · rw [if_pos hlen, if_neg (by omega)]
    rfl
  · rw [if_neg hlen, if_pos (by omega)]
    rfl

/-- All choices among the same terms have the same number of clauses. -/
theorem Clause.length_flatMap_block {n : Nat} {choices : List (List String)}
    (h : ∀ choice ∈ choices, choice.length = n) :
    (choices.flatMap block).length = choices.length * if n ≤ 1 then 1 else 2 := by
  have hblock : ∀ choice ∈ choices, (block choice).length = if n ≤ 1 then 1 else 2 := by
    intro choice hmem
    rw [length_block, h choice hmem]
  rw [List.length_flatMap, List.map_congr_left hblock, List.map_const', List.sum_replicate_nat]

/-- The clauses of all choices among some terms. -/
theorem Clause.length_ranked_block (relaxation : Relaxation) (terms : List Term) :
    ((relaxation.ranked terms).flatMap block).length =
      (relaxation.ranked terms).length * if terms.length ≤ 1 then 1 else 2 := by
  apply length_flatMap_block
  intro choice hchoice
  have hforall := Relaxation.isChoice_of_mem_ranked hchoice
  rw [hforall.length_eq, List.length_map]

/-- A query is made of its clauses, each between tags and in parentheses. -/
theorem TextQuery.ofClauses_clauseTexts (negations : List String) (clauses : List Clause) :
    ofClauses negations clauses = opening ++
      String.join ((clauses.map (clauseText negations)).map fun c => "<seq>(" ++ c ++ ")</seq>") ++
        closing := by
  have hstep : ∀ c : String, step ("(" ++ c ++ ")") = "<seq>(" ++ c ++ ")</seq>" := by
    intro c
    apply String.toList_inj.1
    simp [step]
  rw [ofClauses, List.map_map]
  simp only [hstep, Function.comp_def]

/-! ## No clause comes twice -/

/-- Clauses over forms of the same values differ in their texts. -/
theorem Clause.text_injective {values : List String} (hne : values ≠ []) {x y : Clause}
    (hx : List.Forall₂ IsFormOf x.words values) (hy : List.Forall₂ IsFormOf y.words values)
    (h : x.text = y.text) : x = y := by
  have htoList : Function.Injective (List.map String.toList) :=
    List.map_injective_iff.2 fun _ _ => String.toList_inj.1
  have hchars := congrArg String.toList h
  -- a form starts with a brace or a percent sign, and a clause of the other kind with a letter
  have hstart : ∀ {words : List String} {s : List Char}, List.Forall₂ IsFormOf words values →
      " AND ".toList.intercalate (words.map String.toList) ≠ 'N' :: s := by
    intro words s hwords heq
    cases hwords with
    | nil => exact hne rfl
    | cons ha _ =>
      rw [List.map_cons, Text.intercalate_cons] at heq
      rcases ha with rfl | rfl
      · rw [toList_exactForm] at heq
        exact absurd (List.cons.inj heq).1 (by decide)
      · rw [toList_wildcardForm] at heq
        exact absurd (List.cons.inj heq).1 (by decide)
  cases x with
  | near c =>
    cases y with
    | near d =>
      rw [toList_near, toList_near] at hchars
      have hwords := intercalate_unique (forall₂_apart hx hy) (List.append_cancel_left hchars)
      obtain rfl : c = d := htoList hwords
      rfl
    | every d =>
      rw [toList_near, toList_every] at hchars
      exact absurd hchars.symm (hstart hy)
  | every c =>
    cases y with
    | near d =>
      rw [toList_near, toList_every] at hchars
      exact absurd hchars (hstart hx)
    | every d =>
      rw [toList_every, toList_every, ← List.append_nil (List.intercalate _ (c.map _)),
        ← List.append_nil (List.intercalate _ (d.map _))] at hchars
      obtain rfl : c = d := htoList (intercalate_unique (forall₂_apart hx hy) hchars)
      rfl

theorem Clause.nodup_flatMap_block {choices : List (List String)} (h : choices.Nodup) :
    (choices.flatMap block).Nodup := by
  rw [List.Nodup, List.pairwise_flatMap]
  constructor
  · intro choice _
    unfold block
    split
    · simp
    · exact List.pairwise_singleton _ _
  · refine List.Pairwise.imp ?_ h
    rintro c d hne x hx y hy rfl
    exact hne ((words_of_mem_block hx).symm.trans (words_of_mem_block hy))

/-- The values of terms, as the query holds them. -/
theorem forall₂_isFormOf_of_isChoice {choice : List String} {terms : List Term}
    (h : Relaxation.IsChoice choice (terms.map Term.alternatives)) :
    List.Forall₂ IsFormOf choice (terms.map fun t => sanitize t.text) := by
  rw [Relaxation.IsChoice, List.forall₂_map_right_iff] at h
  rw [List.forall₂_map_right_iff]
  refine h.imp fun a t ha => ?_
  unfold Term.alternatives at ha
  split at ha
  · rcases List.mem_cons.1 ha with rfl | ha
    · exact .inl rfl
    · exact .inr (List.mem_singleton.1 ha)
  · exact .inl (List.mem_singleton.1 ha)

/-- No two clauses of a search are the same text. -/
theorem nodup_clauseTexts (relaxation : Relaxation) {terms : List Term} (hne : terms ≠ [])
    (unwanted : List Term) :
    (((relaxation.ranked terms).flatMap Clause.block).map
      (TextQuery.clauseText (unwanted.map Term.exact))).Nodup := by
  have hclauses := Clause.nodup_flatMap_block (relaxation.nodup_ranked terms)
  rw [List.Nodup, List.pairwise_map]
  refine List.Pairwise.imp_of_mem ?_ hclauses
  intro x y hx hy hxy heq
  have hforms : ∀ clause ∈ (relaxation.ranked terms).flatMap Clause.block,
      List.Forall₂ IsFormOf clause.words (terms.map fun t => sanitize t.text) := by
    intro clause hclause
    obtain ⟨choice, hchoice, hblock⟩ := List.mem_flatMap.1 hclause
    rw [Clause.words_of_mem_block hblock]
    exact forall₂_isFormOf_of_isChoice (Relaxation.isChoice_of_mem_ranked hchoice)
  rw [TextQuery.clauseText_eq, TextQuery.clauseText_eq] at heq
  have htext : x.text = y.text := by
    apply String.toList_inj.1
    have hchars := congrArg String.toList heq
    rw [String.toList_append, String.toList_append] at hchars
    exact List.append_cancel_right hchars
  exact hxy (Clause.text_injective (by simpa using hne) (hforms x hx) (hforms y hy) htext)

/-! ## The limit -/

/-- A tree that is read keeps to the limit. -/
theorem Search.countP_expands_le {names : List String} {limit : Int} {raw : String} {tree : Tree}
    (h : parse names (some limit) raw = .ok tree) : tree.countP Node.expands ≤ limit.toNat :=
  (parse_eq_ok_iff_of_limit.1 h).2 limit rfl

/-- The number of terms that a search looks for without quotation marks. -/
def Tree.unquoted (tree : Tree) : Nat := tree.wanted.countP (!·.literal)

theorem Tree.countP_expands_wanted (tree : Tree) :
    tree.wanted.countP Term.expands = tree.unquoted := by
  apply List.countP_congr
  intro t ht
  obtain ⟨node, -, hwanted⟩ := List.mem_filterMap.1 ht
  cases node with
  | filter item => cases hwanted
  | term t' =>
    rw [Node.wanted?, Option.ite_none_left_eq_some, Option.some.injEq] at hwanted
    obtain ⟨hneg, rfl⟩ := hwanted
    simp [Term.expands, hneg]

/-- These are the terms that count towards the limit. -/
theorem Tree.countP_expands (tree : Tree) : tree.countP Node.expands = tree.unquoted := by
  rw [← countP_expands_wanted, wanted]
  induction tree with
  | nil => rfl
  | cons node tree ih =>
    cases node with
    | filter item =>
      rw [List.filterMap_cons_none rfl, List.countP_cons_of_neg (by simp [Node.expands]), ih]
    | term t =>
      cases hneg : t.negated with
      | true =>
        rw [List.filterMap_cons_none (by simp [Node.wanted?, hneg]),
          List.countP_cons_of_neg (by simp [Node.expands, Term.expands, hneg]), ih]
      | false =>
        have hwanted : Node.wanted? (.term t) = some t := by simp [Node.wanted?, hneg]
        rw [List.filterMap_cons_some hwanted, List.countP_cons, List.countP_cons, ih]
        rfl

/-- A limit bounds the query. A search that is read under a limit has at most so many unquoted
terms. Its query has two clauses for each choice, or one if there is only one term, and the
exhaustive relaxation tries a choice for every subset of the unquoted terms, the tiered one at most
two. No clause comes twice. -/
theorem clauses_within_limit {limit : Nat} {raw : String} {tree : Tree} (relaxation : Relaxation)
    (hparse : Search.parse filterNames (some (limit : Int)) raw = .ok tree)
    (hwanted : tree.wanted ≠ []) :
    tree.unquoted ≤ limit ∧
    ∃ (clauses : List Clause) (texts : List String) (text : String),
      Clause.ofTerms relaxation (NormalQuery.ofTree tree).terms = .ok clauses ∧
      texts = clauses.map (TextQuery.clauseText (NormalQuery.ofTree tree).negations) ∧
      RankedQuery.parse (some (limit : Int)) relaxation.name raw =
        .ok ⟨some text, (NormalQuery.ofTree tree).filters⟩ ∧
      text = TextQuery.opening ++ String.join (texts.map fun c => "<seq>(" ++ c ++ ")</seq>") ++
        TextQuery.closing ∧
      texts.Nodup ∧
      (relaxation = .exhaustive →
        (tree.wanted.length = 1 → texts.length = 2 ^ tree.unquoted) ∧
        (2 ≤ tree.wanted.length → texts.length = 2 ^ (tree.unquoted + 1)) ∧
        texts.length ≤ 2 ^ (limit + 1)) ∧
      (relaxation = .tiered →
        (tree.wanted.length = 1 → texts.length = if tree.unquoted = 0 then 1 else 2) ∧
        (2 ≤ tree.wanted.length → texts.length = 2 * if tree.unquoted = 0 then 1 else 2) ∧
        texts.length ≤ 4) := by
  have hlimit : tree.unquoted ≤ limit := by
    rw [← Tree.countP_expands]
    exact Search.countP_expands_le hparse
  set clauses := (relaxation.ranked tree.wanted).flatMap Clause.block
  set texts := clauses.map (TextQuery.clauseText (tree.unwanted.map Term.exact)) with htexts
  have hofTerms : Clause.ofTerms relaxation (NormalQuery.ofTree tree).terms = .ok clauses := by
    show (relaxation.choices (tree.wanted.map Term.alternatives)).map _ = _
    rw [Relaxation.choices_alternatives]
    rfl
  have hlength : texts.length =
      (relaxation.ranked tree.wanted).length * if tree.wanted.length ≤ 1 then 1 else 2 := by
    rw [htexts, List.length_map]
    exact Clause.length_ranked_block relaxation tree.wanted
  have hone : tree.wanted.length = 1 → texts.length = (relaxation.ranked tree.wanted).length := by
    intro h
    rw [hlength, if_pos (by omega), Nat.mul_one]
  have htwo : 2 ≤ tree.wanted.length →
      texts.length = (relaxation.ranked tree.wanted).length * 2 := by
    intro h
    rw [hlength, if_neg (by omega)]
  have hpos : 0 < tree.wanted.length := List.length_pos_iff.2 hwanted
  refine ⟨hlimit, clauses, texts, _, hofTerms, rfl, RankedQuery.parse_ranked relaxation hparse
    hwanted, TextQuery.ofClauses_clauseTexts _ _, nodup_clauseTexts relaxation hwanted _, ?_, ?_⟩
  · rintro rfl
    rw [Relaxation.length_ranked_exhaustive, Tree.countP_expands_wanted] at hone htwo
    have hbound : 2 ^ (tree.unquoted + 1) ≤ 2 ^ (limit + 1) :=
      Nat.pow_le_pow_right (by omega) (by omega)
    rw [← Nat.pow_succ] at htwo
    refine ⟨hone, htwo, ?_⟩
    by_cases h : tree.wanted.length = 1
    · have hless : 2 ^ tree.unquoted ≤ 2 ^ (tree.unquoted + 1) :=
        Nat.pow_le_pow_right (by omega) (by omega)
      have hsize := hone h
      omega
    · have hsize := htwo (by omega)
      omega
  · rintro rfl
    rw [Relaxation.length_ranked_tiered, Tree.countP_expands_wanted] at hone htwo
    refine ⟨hone, fun h => by rw [htwo h, Nat.mul_comm], ?_⟩
    have htiers : (if tree.unquoted = 0 then 1 else 2) ≤ 2 := by split <;> omega
    by_cases h : tree.wanted.length = 1
    · have hsize := hone h
      omega
    · have hsize := htwo (by omega)
      omega

/-- Two words and a quoted text under a limit of two: four choices of two clauses each, although
nothing is left of the second word in the query. -/
theorem clauses_within_limit_two_words :
    Search.parse filterNames (some ((2 : Nat) : Int)) "a * \"b c\"" = .ok [
      .term ⟨"a", false, false⟩, .term ⟨"*", false, false⟩, .term ⟨"b c", true, false⟩] ∧
    Tree.wanted [.term ⟨"a", false, false⟩, .term ⟨"*", false, false⟩,
      .term ⟨"b c", true, false⟩] ≠ [] ∧
    ∃ (texts : List String) (text : String),
      RankedQuery.parse (some ((2 : Nat) : Int)) "exhaustive" "a * \"b c\"" =
        .ok ⟨some text, []⟩ ∧
      text = TextQuery.opening ++ String.join (texts.map fun c => "<seq>(" ++ c ++ ")</seq>") ++
        TextQuery.closing ∧
      texts.Nodup ∧ texts.length = 8 := by
  have hparse : Search.parse filterNames (some ((2 : Nat) : Int)) "a * \"b c\"" = .ok [
      .term ⟨"a", false, false⟩, .term ⟨"*", false, false⟩, .term ⟨"b c", true, false⟩] := by
    decide +kernel
  have hwanted : Tree.wanted [.term ⟨"a", false, false⟩, .term ⟨"*", false, false⟩,
      .term ⟨"b c", true, false⟩] ≠ [] := by decide
  obtain ⟨-, clauses, texts, text, -, -, htext, hsteps, hnodup, hsize, -⟩ :=
    clauses_within_limit .exhaustive hparse hwanted
  have hlength := (hsize rfl).2.1 (by decide)
  exact ⟨hparse, hwanted, texts, text, htext, hsteps, hnodup, hlength⟩

end StockQuery
