import StockQuery.Proofs.Enumeration
import Mathlib.Algebra.Order.BigOperators.GroupWithZero.List
import Mathlib.Algebra.BigOperators.Ring.List
import Mathlib.Algebra.Order.Ring.Nat
import Mathlib.Data.List.MinMax
import Mathlib.Order.Nat

/-!
# Tiers among all choices

The tiered relaxation leaves out choices of the exhaustive one and does nothing else. A tier is the
choice whose digits are the tier itself, or the last alternative of a term that has too few. No
digit goes down from tier to tier, and the digit of a term with the most alternatives goes up, so
the numbers of the tiers go up (`tierNumber_lt`). The first one is zero and the last one is the
greatest number there is.
-/

namespace StockQuery

theorem Clause.ofTerms_of_choices {relaxation : Relaxation} {terms choices : List (List String)}
    (h : relaxation.choices terms = .ok choices) :
    ofTerms relaxation terms = .ok (choices.flatMap block) := by
  rw [ofTerms, h]
  rfl

namespace Relaxation

open MixedRadix

variable {α : Type} {terms : List (List α)} {choices : List (List α)} {tier higher : Nat}

/-! ## The numbers of the tiers -/

/-- The places of the alternatives that terms of these sizes offer to a tier. -/
def tierDigits (tier : Nat) (radices : List Nat) : List Nat :=
  radices.map fun radix => min tier (radix - 1)

/-- The number that a tier has among all choices. -/
def tierNumber (terms : List (List α)) (tier : Nat) : Nat :=
  number (sizes terms) (tierDigits tier (sizes terms))

theorem number_tierDigits_le (h : tier ≤ higher) (radices : List Nat) :
    number radices (tierDigits tier radices) ≤ number radices (tierDigits higher radices) := by
  induction radices with
  | nil => exact Nat.le_refl 0
  | cons radix radices ih =>
    have hdigit : min tier (radix - 1) ≤ min higher (radix - 1) := by omega
    exact Nat.add_le_add (Nat.mul_le_mul_right _ hdigit) ih

/-- One digit that goes up is enough. -/
theorem number_tierDigits_lt {radices : List Nat} (hpos : ∀ radix ∈ radices, 0 < radix)
    (h : tier < higher) {longest : Nat} (hmem : longest ∈ radices) (hlongest : higher < longest) :
    number radices (tierDigits tier radices) < number radices (tierDigits higher radices) := by
  induction radices with
  | nil => cases hmem
  | cons radix radices ih =>
    obtain ⟨-, hrest⟩ := List.forall_mem_cons.mp hpos
    have htail := number_tierDigits_le (Nat.le_of_lt h) radices
    have hprod : 0 < radices.prod := List.prod_pos hrest
    show min tier (radix - 1) * radices.prod + number radices (tierDigits tier radices) <
      min higher (radix - 1) * radices.prod + number radices (tierDigits higher radices)
    rcases List.mem_cons.mp hmem with rfl | hmem
    · have hdigit : min tier (longest - 1) + 1 ≤ min higher (longest - 1) := by omega
      have hhead := Nat.mul_le_mul_right radices.prod hdigit
      rw [Nat.add_mul, Nat.one_mul] at hhead
      omega
    · have hdigit : min tier (radix - 1) ≤ min higher (radix - 1) := by omega
      exact Nat.add_lt_add_of_le_of_lt (Nat.mul_le_mul_right _ hdigit) (ih hrest hmem)

theorem number_tierDigits_zero (radices : List Nat) :
    number radices (tierDigits 0 radices) = 0 := by
  induction radices with
  | nil => rfl
  | cons radix radices ih =>
    show min 0 (radix - 1) * radices.prod + number radices (tierDigits 0 radices) = 0
    rw [ih, Nat.zero_min, Nat.zero_mul]

/-- Where no term has a wider alternative, there is no greater number. -/
theorem number_tierDigits_last {radices : List Nat} (hpos : ∀ radix ∈ radices, 0 < radix)
    (hlast : ∀ radix ∈ radices, radix ≤ tier + 1) :
    number radices (tierDigits tier radices) + 1 = radices.prod := by
  induction radices with
  | nil => rfl
  | cons radix radices ih =>
    obtain ⟨hradix, hposRest⟩ := List.forall_mem_cons.mp hpos
    obtain ⟨hle, hlastRest⟩ := List.forall_mem_cons.mp hlast
    obtain ⟨digit, rfl⟩ := Nat.exists_eq_add_one_of_ne_zero (Nat.ne_of_gt hradix)
    have hdigit : min tier (digit + 1 - 1) = digit := by omega
    show min tier (digit + 1 - 1) * radices.prod + number radices (tierDigits tier radices) + 1 = _
    rw [hdigit, Nat.add_assoc, ih hposRest hlastRest, List.prod_cons, Nat.add_mul, Nat.one_mul]

/-! ## The tiers -/

/-- What terms offer to a tier stands at the places of the tier. -/
theorem takes_of_atTier {choice : List α}
    (h : List.Forall₂ (fun a alternatives => atTier tier alternatives = some a) choice terms) :
    Takes terms (tierDigits tier (sizes terms)) choice := by
  induction h with
  | nil => exact .nil
  | cons ha _ ih => exact .cons ha ih

theorem exists_length_eq_tierCount (h : terms ≠ []) :
    ∃ alternatives ∈ terms, alternatives.length = tierCount terms := by
  unfold tierCount
  cases hmax : (terms.map List.length).max? with
  | none => exact absurd (List.map_eq_nil_iff.mp (List.max?_eq_none_iff.mp hmax)) h
  | some n => exact List.mem_map.mp (List.max?_eq_some_iff.mp hmax).1

theorem tierCount_eq_max (h : ∀ alternatives ∈ terms, alternatives ≠ []) :
    tierCount terms = max 1 ((sizes terms).foldr max 0) := by
  have hpos := tierCount_pos h
  cases terms with
  | nil => rfl
  | cons first terms =>
    obtain ⟨longest, hmem, hlongest⟩ := exists_length_eq_tierCount (List.cons_ne_nil first terms)
    have hle : tierCount (first :: terms) ≤ (sizes (first :: terms)).foldr max 0 :=
      List.le_max_of_le (List.mem_map_of_mem hmem) (Nat.le_of_eq hlongest.symm)
    have hge : (sizes (first :: terms)).foldr max 0 ≤ tierCount (first :: terms) := by
      apply List.max_le_of_forall_le
      intro size hsize
      obtain ⟨alternatives, halternatives, rfl⟩ := List.mem_map.mp hsize
      exact length_le_tierCount halternatives
    omega

theorem sizes_pos (h : ∀ alternatives ∈ terms, alternatives ≠ []) :
    ∀ size ∈ sizes terms, 0 < size := by
  intro size hsize
  obtain ⟨alternatives, hmem, rfl⟩ := List.mem_map.mp hsize
  exact List.length_pos_iff.mpr (h alternatives hmem)

/-- The numbers of the tiers go up. -/
theorem tierNumber_lt (h : ∀ alternatives ∈ terms, alternatives ≠ []) (htier : tier < higher)
    (hhigher : higher < tierCount terms) : tierNumber terms tier < tierNumber terms higher := by
  have hne : terms ≠ [] := by
    rintro rfl
    have hone : tierCount ([] : List (List α)) = 1 := rfl
    omega
  obtain ⟨longest, hmem, hlongest⟩ := exists_length_eq_tierCount hne
  exact number_tierDigits_lt (sizes_pos h) htier (List.mem_map_of_mem hmem) (by omega)

theorem tierNumber_last (h : ∀ alternatives ∈ terms, alternatives ≠ []) :
    tierNumber terms (tierCount terms - 1) = (combinations terms).length - 1 := by
  have hpos := tierCount_pos h
  have hlast : ∀ size ∈ sizes terms, size ≤ tierCount terms - 1 + 1 := by
    intro size hsize
    obtain ⟨alternatives, hmem, rfl⟩ := List.mem_map.mp hsize
    have hle := length_le_tierCount hmem
    omega
  rw [length_combinations, ← number_tierDigits_last (sizes_pos h) hlast]
  rfl

/-- A tier stands among all choices at its number. -/
theorem map_getElem?_tierNumber (h : tiers terms = some choices) :
    ((List.range choices.length).map (tierNumber terms)).map ((combinations terms)[·]?) =
      choices.map some := by
  obtain ⟨-, htier⟩ := tiers_eq_some h
  apply List.ext_getElem
  · simp
  · intro tier hleft hright
    have hlt : tier < choices.length := by simpa using hright
    have htakes := takes_of_atTier (htier tier _ (List.getElem?_eq_getElem hlt))
    simp only [List.getElem_map, List.getElem_range]
    exact htakes.getElem?_combinations

theorem exists_tiered_choices (h : ∀ alternatives ∈ terms, alternatives ≠ []) :
    ∃ (choices : List (List α)) (positions : List Nat), tiered.choices terms = .ok choices ∧
      choices.length = max 1 ((sizes terms).foldr max 0) ∧
      positions.Pairwise (· < ·) ∧
      positions.map ((combinations terms)[·]?) = choices.map some ∧
      positions.head? = some 0 ∧
      positions.getLast? = some ((combinations terms).length - 1) := by
  obtain ⟨choices, hchoices⟩ := exists_tiers h
  have hlength := (tiers_eq_some hchoices).1
  have hpos := tierCount_pos h
  have hget := map_getElem?_tierNumber hchoices
  rw [hlength] at hget
  refine ⟨choices, (List.range (tierCount terms)).map (tierNumber terms), ?_, ?_, ?_, hget, ?_, ?_⟩
  · rw [Relaxation.choices, hchoices]
  · rw [hlength, tierCount_eq_max h]
  · rw [List.pairwise_map]
    refine List.pairwise_lt_range.imp_of_mem fun _ hhigher hlt => ?_
    exact tierNumber_lt h hlt (List.mem_range.mp hhigher)
  · rw [List.head?_map, List.head?_range, if_neg (Nat.ne_of_gt hpos), Option.map_some, tierNumber,
      number_tierDigits_zero]
  · rw [List.getLast?_map, List.getLast?_range, if_neg (Nat.ne_of_gt hpos), Option.map_some,
      tierNumber_last h]

/-! ## Terms without alternatives -/

theorem combinations_of_nil_mem (h : [] ∈ terms) : combinations terms = [] := by
  have hzero : 0 ∈ sizes terms := List.mem_map_of_mem (f := List.length) h
  rw [← List.length_eq_zero_iff, length_combinations]
  exact List.prod_eq_zero hzero

/-- The first tier is there and finds nothing to take. -/
theorem tiers_eq_none (h : [] ∈ terms) {alternatives : List α} (hmem : alternatives ∈ terms)
    (hne : alternatives ≠ []) : tiers terms = none := by
  cases htiers : tiers terms with
  | none => rfl
  | some choices =>
    obtain ⟨hlength, htier⟩ := tiers_eq_some htiers
    have hsize := List.length_pos_iff.mpr hne
    have hle := length_le_tierCount hmem
    have hfirst := htier 0 _ (List.getElem?_eq_getElem (by omega))
    obtain ⟨j, hj, hnil⟩ := List.getElem_of_mem h
    have hat := (List.forall₂_iff_get.mp hfirst).2 j (hfirst.length_eq ▸ hj) hj
    rw [List.get_eq_getElem, List.get_eq_getElem, hnil] at hat
    cases hat

/-- Where no term has an alternative, there is no tier. -/
theorem tiers_of_forall_eq_nil (hterms : terms ≠ [])
    (h : ∀ alternatives ∈ terms, alternatives = []) : tiers terms = some [] := by
  obtain ⟨longest, hmem, hlongest⟩ := exists_length_eq_tierCount hterms
  rw [h longest hmem, List.length_nil] at hlongest
  rw [tiers, ← hlongest]
  rfl

theorem tiered_choices_of_nil_mem (h : [] ∈ terms) :
    (tiered.choices terms = .error .missingAlternative ↔
      ∃ alternatives ∈ terms, alternatives ≠ []) ∧
    ((∀ alternatives ∈ terms, alternatives = []) → tiered.choices terms = .ok []) := by
  have hnothing : (∀ alternatives ∈ terms, alternatives = []) → tiered.choices terms = .ok [] := by
    intro hall
    rw [Relaxation.choices, tiers_of_forall_eq_nil (List.ne_nil_of_mem h) hall]
  refine ⟨⟨fun hfails => ?_, ?_⟩, hnothing⟩
  · by_contra hall
    push Not at hall
    rw [hnothing hall] at hfails
    cases hfails
  · rintro ⟨alternatives, hmem, hne⟩
    rw [Relaxation.choices, tiers_eq_none h hmem hne]

/-! ## The terms of a search -/

/-- The terms of a search have one choice, or the two tiers are the first and the last choice. -/
theorem tiered_choices_alternatives (terms : List Term) :
    ∃ first : List String,
      (exhaustive.choices (terms.map Term.alternatives) = .ok [first] ∧
        tiered.choices (terms.map Term.alternatives) = .ok [first]) ∨
      ∃ (middle : List (List String)) (last : List String), first ≠ last ∧
        exhaustive.choices (terms.map Term.alternatives) = .ok (first :: (middle ++ [last])) ∧
        tiered.choices (terms.map Term.alternatives) = .ok [first, last] := by
  refine ⟨terms.map Term.exact, ?_⟩
  obtain ⟨more, hmore⟩ := List.head?_eq_some_iff.mp (head?_combinations (isFirst_exact terms))
  have hlast := getLast?_combinations (isLast_widest terms)
  rw [choices_alternatives tiered, ranked, choices, hmore]
  by_cases hany : terms.any Term.expands = true
  · have hne := map_widest_ne hany
    rw [hmore] at hlast
    have hrest : more ≠ [] := by
      rintro rfl
      exact hne (Option.some.inj hlast).symm
    rw [List.getLast?_cons_of_ne_nil hrest] at hlast
    obtain ⟨middle, rfl⟩ := List.getLast?_eq_some_iff.mp hlast
    rw [if_pos hany]
    exact .inr ⟨middle, _, hne.symm, rfl, rfl⟩
  · have hlength := length_ranked_exhaustive terms
    have hzero : terms.countP Term.expands = 0 :=
      List.countP_eq_zero.mpr (List.any_eq_false.mp (Bool.eq_false_iff.mpr hany))
    rw [ranked, hmore, hzero, List.length_cons] at hlength
    obtain rfl : more = [] := List.length_eq_zero_iff.mp (by omega)
    rw [if_neg hany]
    exact .inl ⟨rfl, rfl⟩

/-- The tiered relaxation thins out the exhaustive one. Where every term has an alternative, its
choices are as many as the longest list of alternatives has entries, but at least one, and they
stand among all choices at places that go up from the first to the last one. For the terms of a
search these are the first and the last choice, or the only one, so that the clauses of the choices
between them are left out. Where a term has no alternative there is no choice, and asking for tiers
fails if another term has one. -/
theorem tiers_thin_combinations :
    (∀ {α : Type} (terms : List (List α)),
      ((∀ alternatives ∈ terms, alternatives ≠ []) →
        ∃ (all choices : List (List α)) (places : List Nat),
          exhaustive.choices terms = .ok all ∧
          tiered.choices terms = .ok choices ∧
          choices.length = max 1 ((terms.map List.length).foldr max 0) ∧
          places.Pairwise (· < ·) ∧ places.map (all[·]?) = choices.map some ∧
          places.head? = some 0 ∧ places.getLast? = some (all.length - 1)) ∧
      ([] ∈ terms →
        exhaustive.choices terms = .ok [] ∧
        (tiered.choices terms = .error .missingAlternative ↔
          ∃ alternatives ∈ terms, alternatives ≠ []) ∧
        ((∀ alternatives ∈ terms, alternatives = []) →
          tiered.choices terms = .ok []))) ∧
    ∀ (tree : Tree) (terms : List (List String)), terms = (NormalQuery.ofTree tree).terms →
      ∃ first : List String,
        (exhaustive.choices terms = .ok [first] ∧
          tiered.choices terms = .ok [first] ∧
          Clause.ofTerms .exhaustive terms = .ok (Clause.block first) ∧
          Clause.ofTerms .tiered terms = .ok (Clause.block first)) ∨
        ∃ (middle : List (List String)) (last : List String), first ≠ last ∧
          exhaustive.choices terms = .ok (first :: (middle ++ [last])) ∧
          tiered.choices terms = .ok [first, last] ∧
          Clause.ofTerms .exhaustive terms =
            .ok (Clause.block first ++ (middle.flatMap Clause.block ++ Clause.block last)) ∧
          Clause.ofTerms .tiered terms = .ok (Clause.block first ++ Clause.block last) := by
  refine ⟨fun terms => ⟨fun h => ⟨combinations terms, ?_⟩, fun h => ⟨?_, ?_⟩⟩, ?_⟩
  · obtain ⟨choices, places, hplaces⟩ := exists_tiered_choices h
    exact ⟨choices, places, rfl, hplaces⟩
  · rw [choices, combinations_of_nil_mem h]
  · exact tiered_choices_of_nil_mem h
  · rintro tree _ rfl
    obtain ⟨first, hcases⟩ := tiered_choices_alternatives tree.wanted
    refine ⟨first, ?_⟩
    rcases hcases with ⟨hall, htiers⟩ | ⟨middle, last, hne, hall, htiers⟩
    · refine .inl ⟨hall, htiers, ?_, ?_⟩
      · exact (Clause.ofTerms_of_choices hall).trans (by rw [List.flatMap_singleton])
      · exact (Clause.ofTerms_of_choices htiers).trans (by rw [List.flatMap_singleton])
    · refine .inr ⟨middle, last, hne, hall, htiers, ?_, ?_⟩
      · exact (Clause.ofTerms_of_choices hall).trans
          (by rw [List.flatMap_cons, List.flatMap_append, List.flatMap_singleton])
      · exact (Clause.ofTerms_of_choices htiers).trans
          (by rw [List.flatMap_cons, List.flatMap_singleton])

/-- Three alternatives, one and two: three of the six choices are tiers. A term without alternatives
leaves nothing to choose, and a tier that another term asks for is missing. -/
theorem tiers_thin_combinations_ragged :
    (∀ alternatives ∈ [["a", "b", "c"], ["d"], ["e", "f"]], alternatives ≠ []) ∧
    (∃ (all choices : List (List String)) (places : List Nat),
      exhaustive.choices [["a", "b", "c"], ["d"], ["e", "f"]] = .ok all ∧
      tiered.choices [["a", "b", "c"], ["d"], ["e", "f"]] = .ok choices ∧
      choices.length = 3 ∧ places.Pairwise (· < ·) ∧ places.map (all[·]?) = choices.map some) ∧
    [] ∈ [["a"], []] ∧
    exhaustive.choices [["a"], []] = .ok [] ∧
    tiered.choices [["a"], []] = .error .missingAlternative := by
  have hne : ∀ alternatives ∈ [["a", "b", "c"], ["d"], ["e", "f"]], alternatives ≠ [] := by decide
  have hnil : [] ∈ [["a"], []] := by decide
  obtain ⟨hthin, -⟩ := tiers_thin_combinations.1 [["a", "b", "c"], ["d"], ["e", "f"]]
  obtain ⟨all, choices, places, hall, htiers, hlength, hup, hplaces, -⟩ := hthin hne
  obtain ⟨hnone, hfails, -⟩ := (tiers_thin_combinations.1 [["a"], []]).2 hnil
  exact ⟨hne, ⟨all, choices, places, hall, htiers, hlength, hup, hplaces⟩, hnil, hnone,
    hfails.mpr ⟨["a"], by decide, by decide⟩⟩

end Relaxation

end StockQuery
