import StockQuery.Proofs.Size

/-!
# The choices by number

All choices of one alternative per term stand in the order of their numbers. If the terms have
`l₁`, ..., `lₙ` alternatives, the digits of a number in the mixed radix `(l₁, ..., lₙ)`, with the
last digit the fastest, tell which alternative of every term the choice of this number takes.
Digits and numbers determine each other (`digits_number`, `number_digits`), so that every choice
has exactly one number, also where a term has the same alternative twice.
-/

namespace StockQuery

/-! ## Numbers in a mixed radix -/

namespace MixedRadix

/-- The digits of a number, the last one the fastest. -/
def digits : List Nat → Nat → List Nat
  | [], _ => []
  | radix :: radices, i => i / radices.prod % radix :: digits radices i

/-- The number with these digits. -/
def number : List Nat → List Nat → Nat
  | _ :: radices, d :: ds => d * radices.prod + number radices ds
  | _, _ => 0

/-- Each digit is less than its radix. -/
abbrev Fits (ds radices : List Nat) : Prop := List.Forall₂ (· < ·) ds radices

variable {ds radices : List Nat} {i : Nat}

theorem number_lt (h : Fits ds radices) : number radices ds < radices.prod := by
  induction h with
  | nil => exact Nat.one_pos
  | @cons d radix ds radices hd _ ih =>
    have hle : (d + 1) * radices.prod ≤ radix * radices.prod := Nat.mul_le_mul_right _ hd
    rw [Nat.add_mul, Nat.one_mul] at hle
    rw [number, List.prod_cons]
    omega

/-- Only the rest of a number counts for the digits. -/
theorem digits_mod (radices : List Nat) (i : Nat) :
    digits radices (i % radices.prod) = digits radices i := by
  induction radices generalizing i with
  | nil => rfl
  | cons radix radices ih =>
    have hhead : i % (radix * radices.prod) / radices.prod % radix =
        i / radices.prod % radix := by
      rw [Nat.mod_mul_left_div_self, Nat.mod_mod]
    have htail : digits radices (i % (radix * radices.prod)) = digits radices i := by
      rw [← ih, Nat.mod_mul_left_mod, ih]
    rw [List.prod_cons, digits, digits, hhead, htail]

theorem digits_number (h : Fits ds radices) : digits radices (number radices ds) = ds := by
  induction h with
  | nil => rfl
  | @cons d radix ds radices hd hrest ih =>
    have hlt := number_lt hrest
    have hpos : 0 < radices.prod := by omega
    have hdiv : (d * radices.prod + number radices ds) / radices.prod = d := by
      rw [Nat.mul_comm, Nat.mul_add_div hpos, Nat.div_eq_of_lt hlt, Nat.add_zero]
    have hmod : (d * radices.prod + number radices ds) % radices.prod = number radices ds := by
      rw [Nat.mul_comm, Nat.mul_add_mod, Nat.mod_eq_of_lt hlt]
    rw [number, digits, hdiv, Nat.mod_eq_of_lt hd, ← digits_mod, hmod, ih]

theorem number_digits (h : i < radices.prod) : number radices (digits radices i) = i := by
  induction radices generalizing i with
  | nil => exact (Nat.lt_one_iff.mp h).symm
  | cons radix radices ih =>
    rw [List.prod_cons] at h
    have hpos : 0 < radices.prod := Nat.pos_of_mul_pos_left (Nat.zero_lt_of_lt h)
    have hdiv : i / radices.prod < radix := (Nat.div_lt_iff_lt_mul hpos).mpr h
    rw [digits, number, Nat.mod_eq_of_lt hdiv, ← digits_mod, ih (Nat.mod_lt i hpos),
      Nat.div_add_mod']

theorem fits_digits (h : i < radices.prod) : Fits (digits radices i) radices := by
  have hpos : 0 < radices.prod := by omega
  clear h
  induction radices with
  | nil => exact .nil
  | cons radix radices ih =>
    rw [List.prod_cons] at hpos
    exact .cons (Nat.mod_lt _ (Nat.pos_of_mul_pos_right hpos)) (ih (Nat.pos_of_mul_pos_left hpos))

end MixedRadix

/-! ## The clauses of a choice -/

/-- What the choices contribute, with a format for each clause. -/
theorem Clause.map_format_block {β : Type} (format : String → β) (choice : List String) :
    (block choice).map (fun clause => format clause.text) =
      (if 1 < choice.length then
          [format ("NEAR((" ++ String.intercalate ", " choice ++ "), 100, TRUE)")]
        else []) ++ [format (String.intercalate " AND " choice)] := by
  have hnear : (near choice).text =
      "NEAR((" ++ String.intercalate ", " choice ++ "), 100, TRUE)" := by
    apply String.toList_inj.mp
    rw [toList_near]
    simp
  unfold block
  split
  · rw [List.map_cons, hnear]
    rfl
  · rfl

/-! ## The choice of a number -/

namespace Relaxation

open MixedRadix

variable {α : Type}

/-- The choice takes the alternatives at these places. -/
inductive Takes : List (List α) → List Nat → List α → Prop
  /-- There is no term. -/
  | nil : Takes [] [] []
  /-- The alternative of the first term stands at the first place. -/
  | cons {alternatives : List α} {d : Nat} {a : α} {terms : List (List α)} {ds : List Nat}
      {choice : List α} (h : alternatives[d]? = some a) (hrest : Takes terms ds choice) :
      Takes (alternatives :: terms) (d :: ds) (a :: choice)

/-- How many alternatives each term has. -/
abbrev sizes (terms : List (List α)) : List Nat := terms.map List.length

variable {terms : List (List α)} {ds : List Nat} {choice : List α}

theorem exists_takes (h : Fits ds (sizes terms)) : ∃ choice, Takes terms ds choice := by
  induction terms generalizing ds with
  | nil =>
    cases h
    exact ⟨[], .nil⟩
  | cons alternatives terms ih =>
    cases h with
    | @cons d _ ds _ hd hrest =>
      obtain ⟨choice, hchoice⟩ := ih hrest
      exact ⟨_, .cons (List.getElem?_eq_getElem hd) hchoice⟩

/-- Every term has a place, and its alternative there is taken. -/
theorem Takes.exists_getElem? (h : Takes terms ds choice) {j : Nat} {alternatives : List α}
    (hterm : terms[j]? = some alternatives) :
    ∃ d, ds[j]? = some d ∧ d < alternatives.length ∧ choice[j]? = alternatives[d]? := by
  induction h generalizing j with
  | nil => cases hterm
  | @cons first d a terms ds choice hfirst _ ih =>
    cases j with
    | zero =>
      obtain rfl := Option.some.inj hterm
      exact ⟨d, rfl, (List.getElem?_eq_some_iff.mp hfirst).1, hfirst.symm⟩
    | succ j => exact ih hterm

/-- With every alternative of the first term there are as many choices for the rest. -/
theorem getElem?_flatMap_cons {alternatives : List α} {tails : List (List α)} {d n : Nat} {a : α}
    {tail : List α} (ha : alternatives[d]? = some a) (htail : tails[n]? = some tail) :
    (alternatives.flatMap fun a => tails.map (a :: ·))[d * tails.length + n]? =
      some (a :: tail) := by
  obtain ⟨hn, -⟩ := List.getElem?_eq_some_iff.mp htail
  induction alternatives generalizing d with
  | nil => cases ha
  | cons first alternatives ih =>
    rw [List.flatMap_cons]
    cases d with
    | zero =>
      obtain rfl := Option.some.inj ha
      have hlt : 0 * tails.length + n < (tails.map (first :: ·)).length := by simpa using hn
      rw [List.getElem?_append_left hlt, Nat.zero_mul, Nat.zero_add, List.getElem?_map, htail]
      rfl
    | succ d =>
      have hle : (tails.map (first :: ·)).length ≤ (d + 1) * tails.length + n := by
        rw [List.length_map, Nat.add_mul]
        omega
      have hsub : (d + 1) * tails.length + n - (tails.map (first :: ·)).length =
          d * tails.length + n := by
        rw [List.length_map, Nat.add_mul]
        omega
      rw [List.getElem?_append_right hle, hsub, ih ha]

/-- A choice stands at the place that its number tells. -/
theorem Takes.getElem?_combinations (h : Takes terms ds choice) :
    (combinations terms)[number (sizes terms) ds]? = some choice := by
  induction h with
  | nil => rfl
  | @cons alternatives d a terms ds choice ha _ ih =>
    have hnumber : number (sizes (alternatives :: terms)) (d :: ds) =
        d * (combinations terms).length + number (sizes terms) ds := by
      rw [length_combinations]
      rfl
    rw [hnumber, combinations]
    exact getElem?_flatMap_cons ha ih

theorem exists_takes_digits {i : Nat} (h : i < (sizes terms).prod) :
    ∃ choice, (combinations terms)[i]? = some choice ∧
      Takes terms (digits (sizes terms) i) choice := by
  obtain ⟨choice, htakes⟩ := exists_takes (fits_digits h)
  have hget := htakes.getElem?_combinations
  rw [number_digits h] at hget
  exact ⟨choice, hget, htakes⟩

/-- All choices stand in mixed-radix order. There are as many as the product of the numbers of
alternatives, and each has an alternative for every term. The digits of its number, the last one the
fastest, are the places of these alternatives, and every list of places is that of exactly one
number. The clauses of a search follow the choices, whatever format is given to each: one that
asks for the terms near each other, if there are two or more, and one that asks for all of them. -/
theorem combinations_mixed_radix :
    (∀ {α : Type} (terms : List (List α)),
      (combinations terms).length = (sizes terms).prod ∧
      (∀ choice ∈ combinations terms, choice.length = terms.length) ∧
      (∀ i < (sizes terms).prod, ∃ choice, (combinations terms)[i]? = some choice ∧
        ∀ (j : Nat) (alternatives : List α), terms[j]? = some alternatives →
          ∃ d, (digits (sizes terms) i)[j]? = some d ∧
            d < alternatives.length ∧ choice[j]? = alternatives[d]?) ∧
      ∀ ds : List Nat, Fits ds (sizes terms) →
        ∃! i, i < (sizes terms).prod ∧ digits (sizes terms) i = ds) ∧
    ∀ {β : Type} (terms : List (List String)) (format : String → β), ∃ clauses,
      Clause.ofTerms .exhaustive terms = .ok clauses ∧
      clauses.map (fun clause => format clause.text) =
        (combinations terms).flatMap (fun choice =>
          (if 1 < terms.length then
              [format ("NEAR((" ++ String.intercalate ", " choice ++ "), 100, TRUE)")]
            else []) ++ [format (String.intercalate " AND " choice)]) ∧
      clauses.length = (if 1 < terms.length then 2 else 1) * (combinations terms).length := by
  have hlength : ∀ {α : Type} (terms : List (List α)), ∀ choice ∈ combinations terms,
      choice.length = terms.length := by
    intro α terms choice hchoice
    exact (mem_combinations.mp hchoice).length_eq
  refine ⟨fun terms => ⟨length_combinations terms, hlength terms, ?_, ?_⟩, ?_⟩
  · intro i hi
    obtain ⟨choice, hget, htakes⟩ := exists_takes_digits hi
    exact ⟨choice, hget, fun j alternatives hterm => htakes.exists_getElem? hterm⟩
  · intro ds hds
    refine ⟨number (sizes terms) ds, ⟨number_lt hds, digits_number hds⟩, ?_⟩
    rintro i ⟨hi, rfl⟩
    exact (number_digits hi).symm
  · intro β terms format
    refine ⟨_, rfl, ?_, ?_⟩
    · rw [List.map_flatMap]
      apply List.flatMap_congr
      intro choice hchoice
      rw [Clause.map_format_block, hlength terms choice hchoice]
    · rw [Clause.length_flatMap_block (hlength terms), Nat.mul_comm]
      split <;> split <;> omega

/-- Two, one and three alternatives: the choice with number 4 has the digits 1, 0 and 1. -/
theorem combinations_mixed_radix_ragged :
    4 < (sizes [["a", "b"], ["c"], ["d", "e", "f"]]).prod ∧
    Fits [1, 0, 2] (sizes [["a", "b"], ["c"], ["d", "e", "f"]]) ∧
    (∃ choice, (combinations [["a", "b"], ["c"], ["d", "e", "f"]])[4]? = some choice ∧
      ∃ d, (digits [2, 1, 3] 4)[2]? = some d ∧ choice[2]? = ["d", "e", "f"][d]?) ∧
    ∃! i, i < (sizes [["a", "b"], ["c"], ["d", "e", "f"]]).prod ∧
      digits (sizes [["a", "b"], ["c"], ["d", "e", "f"]]) i = [1, 0, 2] := by
  have hlt : 4 < (sizes [["a", "b"], ["c"], ["d", "e", "f"]]).prod := by decide
  have hfits : Fits [1, 0, 2] (sizes [["a", "b"], ["c"], ["d", "e", "f"]]) := by simp
  obtain ⟨-, -, hplaces, hunique⟩ :=
    combinations_mixed_radix.1 [["a", "b"], ["c"], ["d", "e", "f"]]
  obtain ⟨choice, hget, hchoice⟩ := hplaces 4 hlt
  obtain ⟨d, hd, -, hat⟩ := hchoice 2 ["d", "e", "f"] rfl
  exact ⟨hlt, hfits, ⟨choice, hget, d, hd, hat⟩, hunique _ hfits⟩

end Relaxation

end StockQuery
