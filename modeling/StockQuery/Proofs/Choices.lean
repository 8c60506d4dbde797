import StockQuery.Relaxation
import Mathlib.Data.List.Forall2
import Mathlib.Data.List.Basic

/-!
# The choices of a relaxation

What the two relaxations have in common: where every term has an alternative there are choices, each
takes one alternative of every term, the first one takes the first alternatives and the last one the
last alternatives (`choices_spec`). What sets them apart is how deep calls are nested to enumerate
the choices (`fits_iff`).
-/

namespace StockQuery.Relaxation

variable {α : Type}

/-- The choice takes an alternative of each term. -/
abbrev IsChoice (choice : List α) (terms : List (List α)) : Prop :=
  List.Forall₂ (· ∈ ·) choice terms

/-- The choice takes the first alternative of each term. -/
abbrev IsFirst (choice : List α) (terms : List (List α)) : Prop :=
  List.Forall₂ (fun a alternatives => alternatives.head? = some a) choice terms

/-- The choice takes the last alternative of each term. -/
abbrev IsLast (choice : List α) (terms : List (List α)) : Prop :=
  List.Forall₂ (fun a alternatives => alternatives.getLast? = some a) choice terms

/-- What can be taken from each element of a list can be taken from all of them. -/
theorem exists_forall₂ {β γ : Type} {r : γ → β → Prop} {l : List β} (h : ∀ b ∈ l, ∃ a, r a b) :
    ∃ l', List.Forall₂ r l' l := by
  induction l with
  | nil => exact ⟨[], .nil⟩
  | cons b l ih =>
    obtain ⟨⟨a, ha⟩, hrest⟩ := List.forall_mem_cons.1 h
    obtain ⟨l', hl'⟩ := ih hrest
    exact ⟨a :: l', .cons ha hl'⟩

/-- Terms that all have an alternative have a first choice. -/
theorem exists_isFirst {terms : List (List α)} (h : ∀ alternatives ∈ terms, alternatives ≠ []) :
    ∃ choice, IsFirst choice terms := by
  refine exists_forall₂ fun alternatives hmem => ?_
  obtain ⟨a, more, rfl⟩ := List.exists_cons_of_ne_nil (h alternatives hmem)
  exact ⟨a, rfl⟩

/-- Likewise a last choice. -/
theorem exists_isLast {terms : List (List α)} (h : ∀ alternatives ∈ terms, alternatives ≠ []) :
    ∃ choice, IsLast choice terms :=
  exists_forall₂ fun alternatives hmem =>
    ⟨alternatives.getLast (h alternatives hmem), List.getLast?_eq_some_getLast _⟩

/-! ## All choices -/

/-- The combinations are the choices of one alternative for each term, no more and no less. -/
theorem mem_combinations {choice : List α} {terms : List (List α)} :
    choice ∈ combinations terms ↔ IsChoice choice terms := by
  induction terms generalizing choice with
  | nil => simp [combinations]
  | cons alternatives terms ih =>
    simp only [combinations, List.mem_flatMap, List.mem_map]
    constructor
    · rintro ⟨a, ha, rest, hrest, rfl⟩
      exact .cons ha (ih.1 hrest)
    · rintro (_ | ⟨ha, hrest⟩)
      exact ⟨_, ha, _, ih.2 hrest, rfl⟩

/-- The first combination takes the first alternative of every term. -/
theorem head?_combinations {first : List α} {terms : List (List α)} (h : IsFirst first terms) :
    (combinations terms).head? = some first := by
  induction h with
  | nil => rfl
  | @cons a alternatives rest terms ha hrest ih =>
    obtain ⟨more, rfl⟩ := List.head?_eq_some_iff.1 ha
    simp [combinations, List.head?_append, ih]

/-- The last one takes the last alternative of every term. -/
theorem getLast?_combinations {last : List α} {terms : List (List α)} (h : IsLast last terms) :
    (combinations terms).getLast? = some last := by
  induction h with
  | nil => rfl
  | @cons a alternatives rest terms ha hrest ih =>
    obtain ⟨more, rfl⟩ := List.getLast?_eq_some_iff.1 ha
    simp [combinations, List.getLast?_append, ih]

/-! ## Nested calls -/

/-- With an alternative for each term the calls suffice for all choices if and only if there is one
for every term and one more. -/
theorem combinationsWithin_eq {terms : List (List α)}
    (h : ∀ alternatives ∈ terms, alternatives ≠ []) (calls : Nat) :
    combinationsWithin calls terms =
      if terms.length < calls then some (combinations terms) else none := by
  induction terms generalizing calls with
  | nil =>
    cases calls with
    | zero => rfl
    | succ calls => rfl
  | cons alternatives rest ih =>
    obtain ⟨hne, hrest⟩ := List.forall_mem_cons.1 h
    cases calls with
    | zero => rfl
    | succ calls =>
      rw [combinationsWithin, ih hrest calls, List.length_cons]
      by_cases hlt : rest.length < calls
      · have hall : alternatives.mapM (fun a => some ((combinations rest).map (a :: ·))) =
            some (alternatives.map fun a => (combinations rest).map (a :: ·)) := List.mapM_pure
        simp [hlt, combinations, List.flatMap, hall]
      · obtain ⟨a, more, rfl⟩ := List.exists_cons_of_ne_nil hne
        simp [hlt]

/-- How many terms the exhaustive relaxation takes, and that the tiered one takes any number. -/
theorem fits_iff {terms : List (List α)} (h : ∀ alternatives ∈ terms, alternatives ≠ [])
    (calls : Nat) (relaxation : Relaxation) :
    relaxation.fits calls terms = true ↔ (relaxation = exhaustive → terms.length < calls) := by
  cases relaxation with
  | exhaustive =>
    rw [fits, combinationsWithin_eq h]
    by_cases hlt : terms.length < calls
    · simp [hlt]
    · simp [hlt]
  | tiered => simp [fits]

/-! ## One choice per tier -/

theorem forall₂_of_mapM {β γ : Type} {f : β → Option γ} {l : List β} {l' : List γ}
    (h : l.mapM f = some l') : List.Forall₂ (fun b a => f a = some b) l' l := by
  induction l generalizing l' with
  | nil =>
    obtain rfl := Option.some.inj h
    exact .nil
  | cons a l ih =>
    rw [List.mapM_cons] at h
    cases hf : f a with
    | none =>
      rw [hf] at h
      cases h
    | some b =>
      cases hl : l.mapM f with
      | none =>
        rw [hf, hl] at h
        cases h
      | some bs =>
        rw [hf, hl] at h
        obtain rfl := Option.some.inj h
        exact .cons hf (ih hl)

theorem mapM_of_forall₂ {β γ : Type} {f : β → Option γ} {l : List β} {l' : List γ}
    (h : List.Forall₂ (fun b a => f a = some b) l' l) : l.mapM f = some l' := by
  induction h with
  | nil => rfl
  | cons hb _ ih =>
    rw [List.mapM_cons, hb, ih]
    rfl

/-- The choices of the tiers, tier by tier. -/
theorem tiers_eq_some {terms choices : List (List α)} (h : tiers terms = some choices) :
    choices.length = tierCount terms ∧ ∀ (tier : Nat) (choice : List α),
      choices[tier]? = some choice →
        List.Forall₂ (fun a alternatives => atTier tier alternatives = some a) choice terms := by
  obtain ⟨hlen, hget⟩ := List.forall₂_iff_get.1 (forall₂_of_mapM h)
  refine ⟨by simpa using hlen, fun tier choice hchoice => ?_⟩
  obtain ⟨htier, rfl⟩ := List.getElem?_eq_some_iff.1 hchoice
  have hmap := hget tier htier (hlen ▸ htier)
  simp only [List.get_eq_getElem, List.getElem_range] at hmap
  exact forall₂_of_mapM hmap

theorem exists_tiers {terms : List (List α)} (h : ∀ alternatives ∈ terms, alternatives ≠ []) :
    ∃ choices, tiers terms = some choices := by
  have htier : ∀ tier, ∃ choice, terms.mapM (atTier tier) = some choice := by
    intro tier
    have hat : ∀ alternatives ∈ terms, ∃ a, atTier tier alternatives = some a := by
      intro alternatives hmem
      have hpos := List.length_pos_iff.2 (h alternatives hmem)
      have hlt : min tier (alternatives.length - 1) < alternatives.length := by omega
      exact ⟨_, List.getElem?_eq_getElem hlt⟩
    obtain ⟨choice, hchoice⟩ := exists_forall₂ hat
    exact ⟨choice, mapM_of_forall₂ hchoice⟩
  obtain ⟨choices, hchoices⟩ := exists_forall₂ fun tier _ => htier tier
  exact ⟨choices, mapM_of_forall₂ hchoices⟩

/-- No term has more alternatives than there are tiers. -/
theorem length_le_tierCount {terms : List (List α)} {alternatives : List α}
    (h : alternatives ∈ terms) : alternatives.length ≤ tierCount terms := by
  have hmem := List.mem_map_of_mem (f := List.length) h
  unfold tierCount
  cases hmax : (terms.map List.length).max? with
  | none => rw [List.max?_eq_none_iff.1 hmax] at hmem; cases hmem
  | some n => exact (List.max?_eq_some_iff.1 hmax).2 _ hmem

theorem tierCount_pos {terms : List (List α)} (h : ∀ alternatives ∈ terms, alternatives ≠ []) :
    0 < tierCount terms := by
  cases terms with
  | nil => exact Nat.one_pos
  | cons alternatives terms =>
    have hpos := List.length_pos_iff.2 (h alternatives (by simp))
    have hle : alternatives.length ≤ tierCount (alternatives :: terms) :=
      length_le_tierCount List.mem_cons_self
    omega

/-! ## Both relaxations -/

/-- Where every term has an alternative, there are choices. Each takes an alternative of each term,
from the first alternatives to the last ones. -/
theorem choices_spec (relaxation : Relaxation) {terms : List (List α)}
    (h : ∀ alternatives ∈ terms, alternatives ≠ []) :
    ∃ choices, relaxation.choices terms = .ok choices ∧
      (∀ choice ∈ choices, IsChoice choice terms) ∧
      (∃ first, choices.head? = some first ∧ IsFirst first terms) ∧
      (∃ last, choices.getLast? = some last ∧ IsLast last terms) := by
  cases relaxation with
  | exhaustive =>
    obtain ⟨first, hfirst⟩ := exists_isFirst h
    obtain ⟨last, hlast⟩ := exists_isLast h
    exact ⟨combinations terms, rfl, fun choice => mem_combinations.1,
      ⟨first, head?_combinations hfirst, hfirst⟩, ⟨last, getLast?_combinations hlast, hlast⟩⟩
  | tiered =>
    obtain ⟨choices, hchoices⟩ := exists_tiers h
    obtain ⟨hlen, htier⟩ := tiers_eq_some hchoices
    have hpos := tierCount_pos h
    refine ⟨choices, by simp [Relaxation.choices, hchoices], ?_, ?_, ?_⟩
    · intro choice hmem
      obtain ⟨tier, hget⟩ := List.getElem?_of_mem hmem
      exact (htier tier choice hget).imp fun a alternatives ha => List.mem_of_getElem? ha
    · have hget : choices[0]? = some choices[0] := List.getElem?_eq_getElem (by omega)
      refine ⟨choices[0], by rw [List.head?_eq_getElem?, hget], ?_⟩
      refine (htier 0 _ hget).imp fun a alternatives ha => ?_
      rw [List.head?_eq_getElem?]
      simpa [atTier] using ha
    · have hlt : choices.length - 1 < choices.length := by omega
      have hget := List.getElem?_eq_getElem hlt
      refine ⟨choices[choices.length - 1], by rw [List.getLast?_eq_getElem?, hget], ?_⟩
      have hall := htier (choices.length - 1) _ hget
      refine (List.forall₂_iff_get.2 ⟨hall.length_eq, fun i hi hi' => ?_⟩)
      have hle := length_le_tierCount (List.get_mem terms ⟨i, hi'⟩)
      have hat := (List.forall₂_iff_get.1 hall).2 i hi hi'
      -- the last tier is at least as high as every list of alternatives
      have hmin : min (choices.length - 1) ((terms.get ⟨i, hi'⟩).length - 1) =
          (terms.get ⟨i, hi'⟩).length - 1 := by omega
      rw [atTier, hmin] at hat
      rw [List.getLast?_eq_getElem?, hat]

end StockQuery.Relaxation
