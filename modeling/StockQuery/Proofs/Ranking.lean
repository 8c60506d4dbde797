import StockQuery.Proofs.Wording

/-!
# The rank of a choice

A part ranks by the first clause that it matches, so the order of the choices is the order of the
results. All choices together stand in the order of the first term at which they differ
(`pairwise_combinations`), and either relaxation tries some of them without changing their order
(`choices_alternatives`). A term has no other alternatives than its exact form and the one that
matches parts of words, so that a choice never comes after one that is exact at fewer terms.
-/

namespace StockQuery

/-! ## The order of all choices -/

namespace Relaxation

variable {α : Type}

/-- At the first term at which the two choices differ, the first one takes the alternative that
stands further to the front. -/
inductive Precedes : List (List α) → List α → List α → Prop
  /-- They differ at the first term. -/
  | head {alternatives : List α} {a b : α} (h : [a, b].Sublist alternatives)
      (terms : List (List α)) (c d : List α) : Precedes (alternatives :: terms) (a :: c) (b :: d)
  /-- They differ at a later term. -/
  | tail {terms : List (List α)} {c d : List α} (h : Precedes terms c d)
      (alternatives : List α) (a : α) : Precedes (alternatives :: terms) (a :: c) (a :: d)

/-- The choices stand in the order of the first term at which they differ. -/
theorem pairwise_combinations (terms : List (List α)) :
    (combinations terms).Pairwise (Precedes terms) := by
  induction terms with
  | nil => exact List.pairwise_singleton _ _
  | cons alternatives terms ih =>
    rw [combinations, List.pairwise_flatMap]
    constructor
    · -- with the same alternative of the first term, the rest of the choice decides
      intro a _
      rw [List.pairwise_map]
      exact ih.imp fun h => .tail h alternatives a
    · rw [List.pairwise_iff_forall_sublist]
      intro a b hab x hx y hy
      obtain ⟨c, -, rfl⟩ := List.mem_map.1 hx
      obtain ⟨d, -, rfl⟩ := List.mem_map.1 hy
      exact .head hab terms c d

end Relaxation

/-! ## The forms of a term -/

namespace Term

/-- The alternative of a term that is tried last. -/
def widest (t : Term) : String := if t.expands then wildcardForm (sanitize t.text) else t.exact

theorem widest_ne_exact {t : Term} (h : t.expands = true) : t.widest ≠ t.exact := by
  rw [widest, if_pos h]
  exact (exactForm_ne_wildcardForm _ _).symm

theorem head?_alternatives (t : Term) : t.alternatives.head? = some t.exact := by
  unfold alternatives
  split <;> rfl

theorem getLast?_alternatives (t : Term) : t.alternatives.getLast? = some t.widest := by
  unfold alternatives widest
  split <;> rfl

/-- Of two alternatives of a term, the one in front is exact and the other one is not. -/
theorem exact_of_sublist {t : Term} {a b : String} (h : [a, b].Sublist t.alternatives) :
    a = t.exact ∧ b ≠ t.exact := by
  unfold alternatives at h
  split at h
  · obtain ⟨rfl, rfl⟩ : a = t.exact ∧ b = wildcardForm (sanitize t.text) := by
      simpa using h.eq_of_length rfl
    exact ⟨rfl, (exactForm_ne_wildcardForm _ _).symm⟩
  · have hlen := h.length_le
    simp at hlen

theorem atTier_zero (t : Term) : Relaxation.atTier 0 t.alternatives = some t.exact := by
  unfold alternatives
  split <;> rfl

theorem atTier_one (t : Term) : Relaxation.atTier 1 t.alternatives = some t.widest := by
  unfold alternatives widest
  split <;> rfl

end Term

/-- The first choice is exact at every term at which the second one is. -/
def AsExact (terms : List Term) (choice other : List String) : Prop :=
  ∀ (i : Nat) (t : Term), terms[i]? = some t → other[i]? = some t.exact →
    choice[i]? = some t.exact

/-- Where two choices first differ, the one in front is exact and the other one is not. -/
theorem Relaxation.Precedes.not_asExact {terms : List Term} {c d : List String}
    (h : Precedes (terms.map Term.alternatives) c d) : ¬ AsExact terms d c := by
  intro hexact
  induction terms generalizing c d with
  | nil => cases h
  | cons t terms ih =>
    cases h with
    | head hsub _ c d =>
      obtain ⟨ha, hb⟩ := Term.exact_of_sublist hsub
      have hfirst := hexact 0 t rfl (by rw [ha]; rfl)
      exact hb (Option.some.inj hfirst)
    | tail hrest => exact ih hrest fun i t' ht' => hexact (i + 1) t' ht'

/-! ## The choices of a relaxation -/

namespace Relaxation

theorem tierCount_alternatives (terms : List Term) :
    tierCount (terms.map Term.alternatives) = if terms.any Term.expands then 2 else 1 := by
  have hlen : ∀ t : Term, t.alternatives.length = if t.expands then 2 else 1 := by
    intro t
    unfold Term.alternatives
    split <;> rfl
  unfold tierCount
  induction terms with
  | nil => rfl
  | cons t terms ih =>
    rw [List.map_cons, List.map_cons, List.max?_cons, hlen, Option.getD_some, List.any_cons]
    cases hmax : ((terms.map Term.alternatives).map List.length).max? with
    | none =>
      rw [hmax, Option.getD_none] at ih
      cases ht : t.expands with
      | true => simp
      | false => simpa using ih
    | some n =>
      rw [hmax, Option.getD_some] at ih
      rw [Option.elim_some, ih]
      cases t.expands <;> cases terms.any Term.expands <;> rfl

/-- The tiers of terms: all of them exact, then all of them as wide as possible. -/
theorem tiers_alternatives (terms : List Term) : tiers (terms.map Term.alternatives) =
    some (if terms.any Term.expands then [terms.map Term.exact, terms.map Term.widest]
      else [terms.map Term.exact]) := by
  have htier : ∀ (tier : Nat) (form : Term → String),
      (∀ t : Term, atTier tier t.alternatives = some (form t)) →
      (terms.map Term.alternatives).mapM (atTier tier) = some (terms.map form) := by
    intro tier form hform
    apply mapM_of_forall₂
    rw [List.forall₂_map_right_iff, List.forall₂_map_left_iff, List.forall₂_same]
    exact fun t _ => hform t
  rw [tiers, tierCount_alternatives]
  split
  · have hrange : List.range 2 = [0, 1] := rfl
    rw [hrange, List.mapM_cons, htier 0 _ Term.atTier_zero, List.mapM_cons,
      htier 1 _ Term.atTier_one]
    rfl
  · have hrange : List.range 1 = [0] := rfl
    rw [hrange, List.mapM_cons, htier 0 _ Term.atTier_zero]
    rfl

theorem isFirst_exact (terms : List Term) :
    IsFirst (terms.map Term.exact) (terms.map Term.alternatives) := by
  rw [IsFirst, List.forall₂_map_right_iff, List.forall₂_map_left_iff, List.forall₂_same]
  exact fun t _ => t.head?_alternatives

theorem isLast_widest (terms : List Term) :
    IsLast (terms.map Term.widest) (terms.map Term.alternatives) := by
  rw [IsLast, List.forall₂_map_right_iff, List.forall₂_map_left_iff, List.forall₂_same]
  exact fun t _ => t.getLast?_alternatives

theorem map_widest_ne {terms : List Term} (h : terms.any Term.expands = true) :
    terms.map Term.widest ≠ terms.map Term.exact := by
  intro heq
  obtain ⟨t, ht, hexpands⟩ := List.any_eq_true.1 h
  exact Term.widest_ne_exact hexpands (List.map_inj_left.1 heq t ht)

theorem map_widest_eq {terms : List Term} (h : terms.any Term.expands = false) :
    terms.map Term.widest = terms.map Term.exact := by
  apply List.map_congr_left
  intro t ht
  have hsingle := List.any_eq_false.1 h t ht
  rw [Term.widest, if_neg hsingle]

/-- The choices that are tried for terms. -/
def ranked : Relaxation → List Term → List (List String)
  | exhaustive, terms => combinations (terms.map Term.alternatives)
  | tiered, terms => if terms.any Term.expands then [terms.map Term.exact, terms.map Term.widest]
    else [terms.map Term.exact]

theorem choices_alternatives (relaxation : Relaxation) (terms : List Term) :
    relaxation.choices (terms.map Term.alternatives) = .ok (relaxation.ranked terms) := by
  cases relaxation with
  | exhaustive => rfl
  | tiered => rw [choices, tiers_alternatives]; rfl

theorem head?_ranked (relaxation : Relaxation) (terms : List Term) :
    (relaxation.ranked terms).head? = some (terms.map Term.exact) := by
  cases relaxation with
  | exhaustive => exact head?_combinations (isFirst_exact terms)
  | tiered =>
    rw [ranked]
    split <;> rfl

theorem getLast?_ranked (relaxation : Relaxation) (terms : List Term) :
    (relaxation.ranked terms).getLast? = some (terms.map Term.widest) := by
  cases relaxation with
  | exhaustive => exact getLast?_combinations (isLast_widest terms)
  | tiered =>
    rw [ranked]
    split
    · rfl
    · next h =>
      rw [map_widest_eq (Bool.eq_false_iff.2 h)]
      rfl

/-- A relaxation keeps the order of the choices that it tries. -/
theorem ranked_sublist (relaxation : Relaxation) (terms : List Term) :
    (relaxation.ranked terms).Sublist (combinations (terms.map Term.alternatives)) := by
  cases relaxation with
  | exhaustive => exact List.Sublist.refl _
  | tiered =>
    have hlast := getLast?_combinations (isLast_widest terms)
    obtain ⟨more, hmore⟩ := List.head?_eq_some_iff.1 (head?_combinations (isFirst_exact terms))
    rw [hmore] at hlast ⊢
    rw [ranked]
    split
    · next h =>
      -- the widest choice is another one than the exact choice and comes after it
      have hmem := List.mem_of_getLast? hlast
      have hrest : terms.map Term.widest ∈ more :=
        (List.mem_cons.1 hmem).resolve_left (map_widest_ne h)
      exact (List.singleton_sublist.2 hrest).cons_cons _
    · exact (List.nil_sublist more).cons_cons _

/-- No choice comes after one that is exact at fewer terms. -/
theorem pairwise_ranked (relaxation : Relaxation) (terms : List Term) :
    (relaxation.ranked terms).Pairwise fun c d => ¬ AsExact terms d c :=
  ((pairwise_combinations _).sublist (relaxation.ranked_sublist terms)).imp Precedes.not_asExact

theorem nodup_ranked (relaxation : Relaxation) (terms : List Term) :
    (relaxation.ranked terms).Nodup := by
  refine (relaxation.pairwise_ranked terms).imp ?_
  rintro c d hexact rfl
  exact hexact fun _ _ _ hc => hc

theorem mem_ranked_exhaustive {terms : List Term} {choice : List String} :
    choice ∈ exhaustive.ranked terms ↔
      List.Forall₂ (fun a (t : Term) => a ∈ t.alternatives) choice terms := by
  rw [ranked, mem_combinations, IsChoice, List.forall₂_map_right_iff]

theorem mem_ranked_tiered {terms : List Term} {choice : List String} :
    choice ∈ tiered.ranked terms ↔
      choice = terms.map Term.exact ∨ choice = terms.map Term.widest := by
  rw [ranked]
  split
  · rw [List.mem_cons, List.mem_singleton]
  · next h => rw [map_widest_eq (Bool.eq_false_iff.2 h), List.mem_singleton, or_self]

/-- Each choice has a form for every term. -/
theorem isChoice_of_mem_ranked {relaxation : Relaxation} {terms : List Term} {choice : List String}
    (h : choice ∈ relaxation.ranked terms) : IsChoice choice (terms.map Term.alternatives) :=
  mem_combinations.1 ((relaxation.ranked_sublist terms).subset h)

end Relaxation

/-! ## The text of a choice -/

/-- The terms that a search looks for. -/
def Tree.wanted (tree : Tree) : List Term := tree.filterMap Node.wanted?

/-- The terms that a search leaves out. -/
def Tree.unwanted (tree : Tree) : List Term := tree.filterMap Node.unwanted?

namespace TextQuery

/-- What a clause says about the terms to leave out, which is nothing if there are none. -/
def exclusionText (unwanted : List Term) : String :=
  if unwanted = [] then ""
  else " NOT (" ++ String.intercalate " | " (unwanted.map Term.exact) ++ ")"

/-- The steps of a choice: with more than one term, first the one that asks for the terms near each
other, and then the one that asks for all of them. -/
def blockText (unwanted : List Term) (choice : List String) : String :=
  (if 2 ≤ choice.length then
      "<seq>(" ++ ("NEAR((" ++ String.intercalate ", " choice ++ "), 100, TRUE)"
        ++ exclusionText unwanted) ++ ")</seq>"
    else "")
    ++ "<seq>(" ++ (String.intercalate " AND " choice ++ exclusionText unwanted) ++ ")</seq>"

theorem clauseText_eq (unwanted : List Term) (clause : Clause) :
    clauseText (unwanted.map Term.exact) clause = clause.text ++ exclusionText unwanted := by
  apply String.toList_inj.1
  rw [toList_clauseText, String.toList_append]
  by_cases hnone : unwanted = []
  · simp [exclusionText, exclusionChars, hnone]
  · have hsome : unwanted.map Term.exact ≠ [] := by simpa using hnone
    rw [exclusionText, if_neg hnone, exclusionChars_of_ne_nil hsome]
    simp

theorem join_steps_block (unwanted : List Term) (choice : List String) :
    String.join ((Clause.block choice).map fun clause =>
        step ("(" ++ clauseText (unwanted.map Term.exact) clause ++ ")")) =
      blockText unwanted choice := by
  have hdistance : toString Clause.nearDistance = "100" := by decide
  apply String.toList_inj.1
  unfold Clause.block blockText
  by_cases hlen : 1 < choice.length
  · have htwo : 2 ≤ choice.length := hlen
    rw [if_pos hlen, if_pos htwo]
    simp [clauseText_eq, step, Clause.text, hdistance]
  · have htwo : ¬ 2 ≤ choice.length := hlen
    rw [if_neg hlen, if_neg htwo]
    simp [clauseText_eq, step, Clause.text]

theorem ofClauses_blocks (unwanted : List Term) (choices : List (List String)) :
    ofClauses (unwanted.map Term.exact) (choices.flatMap Clause.block) =
      opening ++ String.join (choices.map (blockText unwanted)) ++ closing := by
  have hjoin : String.join ((choices.flatMap Clause.block).map fun clause =>
      step ("(" ++ clauseText (unwanted.map Term.exact) clause ++ ")")) =
      String.join (choices.map (blockText unwanted)) := by
    induction choices with
    | nil => rfl
    | cons choice choices ih =>
      rw [List.flatMap_cons, List.map_append, String.join_append, join_steps_block, ih,
        List.map_cons, String.join_cons]
  rw [ofClauses, hjoin]

end TextQuery

/-- A search string with terms has the query of the choices that its relaxation tries. -/
theorem RankedQuery.parse_ranked {limit : Option Int} {raw : String} {tree : Tree}
    (relaxation : Relaxation) (hparse : Search.parse filterNames limit raw = .ok tree)
    (hwanted : tree.wanted ≠ []) :
    RankedQuery.parse limit relaxation.name raw = .ok ⟨some (TextQuery.ofClauses
      (tree.unwanted.map Term.exact) ((relaxation.ranked tree.wanted).flatMap Clause.block)),
      (NormalQuery.ofTree tree).filters⟩ := by
  have hne : (NormalQuery.ofTree tree).terms ≠ [] := fun h => hwanted (List.map_eq_nil_iff.1 h)
  exact RankedQuery.parse_eq hparse hne (relaxation.choices_alternatives tree.wanted)

/-- The query of a search is ranked. It is made of one block for each choice, no choice comes twice,
the first choice is exact at every term and the last one is as wide as it can be. The exhaustive
relaxation tries every choice and the tiered one only these two, and under either a choice comes
before any other one that is exact at no more terms. -/
theorem textQuery_ranked {limit : Option Int} {raw : String} {tree : Tree}
    (relaxation : Relaxation) (hparse : Search.parse filterNames limit raw = .ok tree)
    (hwanted : tree.wanted ≠ []) :
    ∃ (choices : List (List String)) (text : String),
      RankedQuery.parse limit relaxation.name raw =
        .ok ⟨some text, (NormalQuery.ofTree tree).filters⟩ ∧
      text = TextQuery.opening ++ String.join (choices.map (TextQuery.blockText tree.unwanted)) ++
        TextQuery.closing ∧
      choices.Nodup ∧
      (relaxation = .exhaustive → ∀ choice, choice ∈ choices ↔
        List.Forall₂ (fun a (t : Term) => a ∈ t.alternatives) choice tree.wanted) ∧
      (relaxation = .tiered → ∀ choice, choice ∈ choices ↔
        choice = tree.wanted.map Term.exact ∨ choice = tree.wanted.map Term.widest) ∧
      choices.head? = some (tree.wanted.map Term.exact) ∧
      choices.getLast? = some (tree.wanted.map Term.widest) ∧
      ∀ (i j : Nat) (c d : List String), choices[i]? = some c → choices[j]? = some d → c ≠ d →
        AsExact tree.wanted c d → i < j := by
  refine ⟨relaxation.ranked tree.wanted, _, RankedQuery.parse_ranked relaxation hparse hwanted,
    TextQuery.ofClauses_blocks _ _, relaxation.nodup_ranked _, ?_, ?_, relaxation.head?_ranked _,
    relaxation.getLast?_ranked _, ?_⟩
  · rintro rfl choice
    exact Relaxation.mem_ranked_exhaustive
  · rintro rfl choice
    exact Relaxation.mem_ranked_tiered
  · intro i j c d hc hd hne hexact
    obtain ⟨hi, rfl⟩ := List.getElem?_eq_some_iff.1 hc
    obtain ⟨hj, rfl⟩ := List.getElem?_eq_some_iff.1 hd
    have hpairwise := List.pairwise_iff_getElem.1 (relaxation.pairwise_ranked tree.wanted)
    by_contra hnot
    rcases Nat.lt_or_eq_of_le (Nat.le_of_not_lt hnot) with hlt | heq
    · exact hpairwise j i hj hi hlt hexact
    · subst heq
      exact hne rfl

/-- A quoted term between two words: it is exact in every choice, and the words are widened from the
back to the front. -/
theorem textQuery_ranked_quoted_between :
    Search.parse filterNames none "a -b \"c d\" e" = .ok [.term ⟨"a", false, false⟩,
      .term ⟨"b", false, true⟩, .term ⟨"c d", true, false⟩, .term ⟨"e", false, false⟩] ∧
    Tree.wanted [.term ⟨"a", false, false⟩, .term ⟨"b", false, true⟩, .term ⟨"c d", true, false⟩,
      .term ⟨"e", false, false⟩] ≠ [] ∧
    ∃ (choices : List (List String)) (text : String),
      RankedQuery.parse none "exhaustive" "a -b \"c d\" e" = .ok ⟨some text, []⟩ ∧
      choices.head? = some ["\x7ba\x7d", "\x7bc d\x7d", "\x7be\x7d"] ∧
      choices.getLast? = some ["%a%", "\x7bc d\x7d", "%e%"] ∧
      ∀ i j : Nat, choices[i]? = some ["\x7ba\x7d", "\x7bc d\x7d", "%e%"] →
        choices[j]? = some ["%a%", "\x7bc d\x7d", "%e%"] → i < j := by
  have hparse : Search.parse filterNames none "a -b \"c d\" e" = .ok [.term ⟨"a", false, false⟩,
      .term ⟨"b", false, true⟩, .term ⟨"c d", true, false⟩, .term ⟨"e", false, false⟩] := by
    decide +kernel
  have hwanted : Tree.wanted [.term ⟨"a", false, false⟩, .term ⟨"b", false, true⟩,
      .term ⟨"c d", true, false⟩, .term ⟨"e", false, false⟩] ≠ [] := by decide
  obtain ⟨choices, text, htext, -, -, -, -, hhead, hlast, horder⟩ :=
    textQuery_ranked .exhaustive hparse hwanted
  have hexact : AsExact (Tree.wanted [.term ⟨"a", false, false⟩, .term ⟨"b", false, true⟩,
      .term ⟨"c d", true, false⟩, .term ⟨"e", false, false⟩])
      ["\x7ba\x7d", "\x7bc d\x7d", "%e%"] ["%a%", "\x7bc d\x7d", "%e%"] := by
    intro i t ht hd
    match i with
    | 0 => exact absurd hd (by obtain rfl := Option.some.inj ht; decide)
    | 1 => exact hd
    | 2 => exact hd
    | i + 3 => cases ht
  exact ⟨hparse, hwanted, choices, text, htext, hhead, hlast, fun i j hi hj =>
    horder i j _ _ hi hj (by decide) hexact⟩

end StockQuery
