import StockQuery.Proofs.Clauses

/-!
# A full-text query tells what was searched for

The clauses of a full-text query are put together from words that may hold the connectives, percent
signs or tags themselves. They can be taken apart again, in two steps. The first clause is all
exact, and an exact form cannot be closed early: it tells the values and the terms that are left
out. With the values known, the alternatives of a term differ in their first character, so that the
rest tells every choice, and the last choice tells which terms were quoted.
-/

namespace StockQuery

/-- A value that a normal form may hold: none of its characters is left out of a term. -/
def IsClean (value : String) : Prop := ∀ c ∈ value.toList, isForbidden c = false

instance (value : String) : Decidable (IsClean value) :=
  decidable_of_iff (value.toList.all (!isForbidden ·) = true) (by simp [IsClean])

/-- The alternatives of a value, only the exact one if it was quoted. -/
def alternativesOf (value : String) (isQuoted : Bool) : List String :=
  if isQuoted then [exactForm value] else [exactForm value, wildcardForm value]

/-- What a search says: the value of each term and whether it was quoted, and the values of the
terms that are left out. -/
structure Wording where
  /-- The terms to look for. -/
  terms : List (String × Bool)
  /-- The terms to leave out. -/
  excluded : List String

/-- The query has the alternatives of the terms and the exact forms of what is left out. -/
structure NormalQuery.HasWording (q : NormalQuery) (w : Wording) : Prop where
  /-- The alternatives are those of the terms. -/
  terms_eq : q.terms = w.terms.map fun t => alternativesOf t.1 t.2
  /-- The terms to leave out are in exact form. -/
  negations_eq : q.negations = w.excluded.map exactForm
  /-- The terms are clean. -/
  clean_terms : ∀ t ∈ w.terms, IsClean t.1
  /-- So are the terms that are left out. -/
  clean_excluded : ∀ value ∈ w.excluded, IsClean value

/-! ## Words that tell themselves apart -/

/-- No text can start with both words unless they are the same. -/
def Apart (a a' : List Char) : Prop := ∀ s s', a ++ s = a' ++ s' → a = a'

theorem Apart.refl (a : List Char) : Apart a a := fun _ _ _ => rfl

theorem Apart.of_head {c c' : Char} (h : c ≠ c') (cs cs' : List Char) :
    Apart (c :: cs) (c' :: cs') := fun _ _ heq => absurd (List.cons.inj heq).1 h

theorem toList_exactForm (value : String) :
    (exactForm value).toList = '\x7b' :: (value.toList ++ ['\x7d']) := by
  simp [exactForm]

theorem toList_wildcardForm (value : String) :
    (wildcardForm value).toList = '%' :: (escapeChars value.toList ++ ['%']) := by
  simp [wildcardForm]

theorem exactForm_injective : Function.Injective exactForm := by
  intro value value' heq
  have hlist := congrArg String.toList heq
  rw [toList_exactForm, toList_exactForm] at hlist
  exact String.toList_inj.1 (List.append_cancel_right (List.cons.inj hlist).2)

theorem IsClean.brace_notMem {value : String} (h : IsClean value) : '\x7d' ∉ value.toList :=
  fun hmem => absurd (h _ hmem) (by decide)

/-- An exact form ends at its closing brace. -/
theorem apart_exactForm {value value' : String} (h : IsClean value) (h' : IsClean value') :
    Apart (exactForm value).toList (exactForm value').toList := by
  intro s s' heq
  simp only [toList_exactForm, List.cons_append, List.append_assoc, List.nil_append] at heq ⊢
  rw [(Text.cut_unique h.brace_notMem h'.brace_notMem (List.cons.inj heq).2).1]

/-- With the words told apart one by one, a list of known length tells its words. -/
theorem flatMap_unique {sep s s' : List Char} {ws ws' : List (List Char)}
    (hapart : List.Forall₂ Apart ws ws')
    (heq : ws.flatMap (sep ++ ·) ++ s = ws'.flatMap (sep ++ ·) ++ s') : ws = ws' ∧ s = s' := by
  induction hapart with
  | nil => exact ⟨rfl, by simpa using heq⟩
  | @cons a a' ws ws' ha hrest ih =>
    simp only [List.flatMap_cons, List.append_assoc, List.append_cancel_left_eq] at heq
    obtain rfl := ha _ _ heq
    obtain ⟨rfl, rfl⟩ := ih (List.append_cancel_left heq)
    exact ⟨rfl, rfl⟩

/-- With all words told apart, a list tells its length and its words, if the text that follows does
not start like a separator. -/
theorem flatMap_unique_of_head? {x : Char} {sep s s' : List Char} {ws ws' : List (List Char)}
    (hapart : ∀ a ∈ ws, ∀ a' ∈ ws', Apart a a') (hs : s.head? ≠ some x) (hs' : s'.head? ≠ some x)
    (heq : ws.flatMap (x :: sep ++ ·) ++ s = ws'.flatMap (x :: sep ++ ·) ++ s') :
    ws = ws' ∧ s = s' := by
  induction ws generalizing ws' with
  | nil =>
    cases ws' with
    | nil => exact ⟨rfl, by simpa using heq⟩
    | cons a' ws' =>
      rw [List.flatMap_nil, List.nil_append] at heq
      rw [heq] at hs
      exact absurd rfl hs
  | cons a ws ih =>
    cases ws' with
    | nil =>
      rw [List.flatMap_nil, List.nil_append] at heq
      rw [← heq] at hs'
      exact absurd rfl hs'
    | cons a' ws' =>
      simp only [List.flatMap_cons, List.append_assoc, List.append_cancel_left_eq] at heq
      obtain rfl := hapart a (by simp) a' (by simp) _ _ heq
      obtain ⟨rfl, rfl⟩ := ih (fun b hb b' hb' =>
        hapart b (List.mem_cons_of_mem _ hb) b' (List.mem_cons_of_mem _ hb'))
        (List.append_cancel_left heq)
      exact ⟨rfl, rfl⟩

/-- The same for words with separators only between them. -/
theorem intercalate_unique_of_head? {x : Char} {sep s s' : List Char} {ws ws' : List (List Char)}
    (hne : ws ≠ []) (hne' : ws' ≠ []) (hapart : ∀ a ∈ ws, ∀ a' ∈ ws', Apart a a')
    (hs : s.head? ≠ some x) (hs' : s'.head? ≠ some x)
    (heq : (x :: sep).intercalate ws ++ s = (x :: sep).intercalate ws' ++ s') :
    ws = ws' ∧ s = s' := by
  obtain ⟨a, ws, rfl⟩ := List.exists_cons_of_ne_nil hne
  obtain ⟨a', ws', rfl⟩ := List.exists_cons_of_ne_nil hne'
  simp only [Text.intercalate_cons, List.append_assoc] at heq
  obtain rfl := hapart a (by simp) a' (by simp) _ _ heq
  obtain ⟨rfl, rfl⟩ := flatMap_unique_of_head? (fun b hb b' hb' =>
    hapart b (List.mem_cons_of_mem _ hb) b' (List.mem_cons_of_mem _ hb')) hs hs'
    (List.append_cancel_left heq)
  exact ⟨rfl, rfl⟩

/-! ## The first clause tells the values -/

/-- Exact forms with separators between them tell their values, if the text that follows does not
start like a separator. -/
theorem intercalate_exactForm_unique (x : Char) (sep : List Char) {s s' : List Char}
    {values values' : List String} (hne : values ≠ []) (hne' : values' ≠ [])
    (hclean : ∀ v ∈ values, IsClean v) (hclean' : ∀ v ∈ values', IsClean v)
    (hs : s.head? ≠ some x) (hs' : s'.head? ≠ some x)
    (heq : (x :: sep).intercalate ((values.map exactForm).map String.toList) ++ s =
      (x :: sep).intercalate ((values'.map exactForm).map String.toList) ++ s') :
    values = values' ∧ s = s' := by
  have hapart : ∀ a ∈ (values.map exactForm).map String.toList,
      ∀ a' ∈ (values'.map exactForm).map String.toList, Apart a a' := by
    simp only [List.map_map, List.mem_map, Function.comp_apply]
    rintro _ ⟨v, hv, rfl⟩ _ ⟨v', hv', rfl⟩
    exact apart_exactForm (hclean v hv) (hclean' v' hv')
  obtain ⟨hwords, hrest⟩ := intercalate_unique_of_head? (by simpa using hne) (by simpa using hne')
    hapart hs hs' heq
  have htoList : Function.Injective (List.map String.toList) :=
    List.map_injective_iff.2 fun _ _ => String.toList_inj.1
  exact ⟨List.map_injective_iff.2 exactForm_injective (htoList hwords), hrest⟩

theorem toList_lead_exact {values : List String} (hne : values ≠ []) (s : List Char) :
    (∃ v, values = [v] ∧
      (Clause.lead (values.map exactForm)).text.toList ++ s = (exactForm v).toList ++ s) ∨
    (Clause.lead (values.map exactForm)).text.toList ++ s = "NEAR((".toList ++
      (", ".toList.intercalate ((values.map exactForm).map String.toList) ++
        ("), 100, TRUE)".toList ++ s)) := by
  by_cases hlen : 1 < (values.map exactForm).length
  · right
    rw [Clause.lead, if_pos hlen, Clause.toList_near]
    simp only [List.append_assoc]
  · left
    obtain ⟨v, more, rfl⟩ := List.exists_cons_of_ne_nil hne
    have hmore : more = [] := by
      rw [List.length_map, List.length_cons] at hlen
      exact List.length_eq_zero_iff.1 (by omega)
    subst hmore
    refine ⟨v, rfl, ?_⟩
    rw [Clause.lead, if_neg hlen, Clause.toList_every]
    simp

theorem lead_exact_unique {values values' : List String} {s s' : List Char}
    (hne : values ≠ []) (hne' : values' ≠ []) (hclean : ∀ v ∈ values, IsClean v)
    (hclean' : ∀ v ∈ values', IsClean v)
    (heq : (Clause.lead (values.map exactForm)).text.toList ++ s =
      (Clause.lead (values'.map exactForm)).text.toList ++ s') : values = values' ∧ s = s' := by
  -- a clause of several terms starts with a letter, a clause of one term with a brace
  rcases toList_lead_exact hne s with ⟨v, rfl, hone⟩ | hlist <;>
    rcases toList_lead_exact hne' s' with ⟨v', rfl, hone'⟩ | hlist'
  · rw [hone, hone'] at heq
    have hsame := apart_exactForm (hclean v (by simp)) (hclean' v' (by simp)) _ _ heq
    rw [hsame] at heq
    exact ⟨by rw [exactForm_injective (String.toList_inj.1 hsame)], List.append_cancel_left heq⟩
  · rw [hone, hlist', toList_exactForm] at heq
    exact absurd (List.cons.inj heq).1 (by decide)
  · rw [hlist, hone', toList_exactForm] at heq
    exact absurd (List.cons.inj heq).1 (by decide)
  · rw [hlist, hlist'] at heq
    obtain ⟨hvalues, hrest⟩ := intercalate_exactForm_unique ',' [' '] hne hne' hclean hclean'
      (by simp) (by simp) (List.append_cancel_left heq)
    exact ⟨hvalues, List.append_cancel_left hrest⟩

/-- What a step excludes is told by what stands before its closing tag. -/
theorem exclusionChars_unique {values values' : List String} {s s' : List Char}
    (hclean : ∀ v ∈ values, IsClean v) (hclean' : ∀ v ∈ values', IsClean v)
    (heq : TextQuery.exclusionChars (values.map exactForm) ++ (")</seq>".toList ++ s) =
      TextQuery.exclusionChars (values'.map exactForm) ++ (")</seq>".toList ++ s')) :
    values = values' ∧ s = s' := by
  have hmap : ∀ {values : List String}, values ≠ [] → values.map exactForm ≠ [] := by simp
  by_cases hne : values = [] <;> by_cases hne' : values' = []
  · subst hne hne'
    exact ⟨rfl, List.append_cancel_left heq⟩
  · rw [hne, TextQuery.exclusionChars_of_ne_nil (hmap hne')] at heq
    exact absurd (List.cons.inj heq).1 (by decide)
  · rw [hne', TextQuery.exclusionChars_of_ne_nil (hmap hne)] at heq
    exact absurd (List.cons.inj heq).1 (by decide)
  · rw [TextQuery.exclusionChars_of_ne_nil (hmap hne),
      TextQuery.exclusionChars_of_ne_nil (hmap hne')] at heq
    simp only [List.append_assoc] at heq
    obtain ⟨hvalues, hrest⟩ := intercalate_exactForm_unique ' ' ['|', ' '] hne hne' hclean
      hclean' (by simp) (by simp) (List.append_cancel_left heq)
    exact ⟨hvalues, List.append_cancel_left (List.append_cancel_left hrest)⟩

/-- The first step tells the values and what is left out. -/
theorem step_exact_unique {values values' excluded excluded' : List String} {s s' : List Char}
    (hne : values ≠ []) (hne' : values' ≠ []) (hvalues : ∀ v ∈ values, IsClean v)
    (hvalues' : ∀ v ∈ values', IsClean v) (hexcluded : ∀ v ∈ excluded, IsClean v)
    (hexcluded' : ∀ v ∈ excluded', IsClean v)
    (heq : TextQuery.stepChars (excluded.map exactForm) (Clause.lead (values.map exactForm)) ++ s =
      TextQuery.stepChars (excluded'.map exactForm) (Clause.lead (values'.map exactForm)) ++ s') :
    values = values' ∧ excluded = excluded' := by
  simp only [TextQuery.stepChars_eq, List.append_assoc] at heq
  obtain ⟨rfl, hrest⟩ := lead_exact_unique hne hne' hvalues hvalues' (List.append_cancel_left heq)
  exact ⟨rfl, (exclusionChars_unique hexcluded hexcluded' hrest).1⟩

/-! ## With the values known, the steps tell the choices -/

/-- The choice takes one of the two forms of each value. -/
abbrev IsFormOf (a value : String) : Prop := a = exactForm value ∨ a = wildcardForm value

theorem exactForm_ne_wildcardForm (value value' : String) :
    exactForm value ≠ wildcardForm value' := by
  intro heq
  have hlist := congrArg String.toList heq
  rw [toList_exactForm, toList_wildcardForm] at hlist
  exact absurd (List.cons.inj hlist).1 (by decide)

theorem IsFormOf.apart {a a' value : String} (h : IsFormOf a value) (h' : IsFormOf a' value) :
    Apart a.toList a'.toList := by
  rcases h with rfl | rfl <;> rcases h' with rfl | rfl
  · exact .refl _
  · rw [toList_exactForm, toList_wildcardForm]
    exact .of_head (by decide) _ _
  · rw [toList_exactForm, toList_wildcardForm]
    exact .of_head (by decide) _ _
  · exact .refl _

theorem forall₂_apart {choice choice' values : List String}
    (h : List.Forall₂ IsFormOf choice values) (h' : List.Forall₂ IsFormOf choice' values) :
    List.Forall₂ Apart (choice.map String.toList) (choice'.map String.toList) := by
  induction h generalizing choice' with
  | nil => cases h'; exact .nil
  | cons ha _ ih =>
    cases h' with
    | cons ha' hrest' => exact .cons (ha.apart ha') (ih hrest')

/-- With the words told apart one by one, their list tells them. -/
theorem intercalate_unique {sep s s' : List Char} {ws ws' : List (List Char)}
    (hapart : List.Forall₂ Apart ws ws')
    (heq : sep.intercalate ws ++ s = sep.intercalate ws' ++ s') : ws = ws' := by
  cases hapart with
  | nil => rfl
  | cons ha hrest =>
    simp only [Text.intercalate_cons, List.append_assoc] at heq
    obtain rfl := ha _ _ heq
    rw [(flatMap_unique hrest (List.append_cancel_left heq)).1]

theorem step_choice_unique {negations choice choice' values : List String} {s s' : List Char}
    (h : List.Forall₂ IsFormOf choice values) (h' : List.Forall₂ IsFormOf choice' values)
    (heq : TextQuery.stepChars negations (Clause.lead choice) ++ s =
      TextQuery.stepChars negations (Clause.lead choice') ++ s') : choice = choice' := by
  have htoList : Function.Injective (List.map String.toList) :=
    List.map_injective_iff.2 fun _ _ => String.toList_inj.1
  have hlen : choice.length = choice'.length := h.length_eq.trans h'.length_eq.symm
  simp only [TextQuery.stepChars_eq, List.append_assoc, List.append_cancel_left_eq] at heq
  by_cases hone : 1 < choice.length
  · rw [Clause.lead, Clause.lead, if_pos hone, if_pos (hlen ▸ hone), Clause.toList_near,
      Clause.toList_near] at heq
    simp only [List.append_assoc, List.append_cancel_left_eq] at heq
    exact htoList (intercalate_unique (forall₂_apart h h') heq)
  · rw [Clause.lead, Clause.lead, if_neg hone, if_neg (hlen ▸ hone), Clause.toList_every,
      Clause.toList_every] at heq
    exact htoList (intercalate_unique (forall₂_apart h h') heq)

theorem closing_ne_step (negations : List String) (clause : Clause) (s : List Char) :
    TextQuery.closing.toList ≠ TextQuery.stepChars negations clause ++ s := by
  intro heq
  have hsecond := congrArg (·[1]?) heq
  simp [TextQuery.closing, TextQuery.stepChars_eq] at hsecond

/-- The steps of a query tell its choices. -/
theorem choices_unique {negations values : List String} {choices choices' : List (List String)}
    (h : ∀ choice ∈ choices, List.Forall₂ IsFormOf choice values)
    (h' : ∀ choice ∈ choices', List.Forall₂ IsFormOf choice values)
    (heq : (choices.flatMap Clause.block).flatMap (TextQuery.stepChars negations) ++
        TextQuery.closing.toList =
      (choices'.flatMap Clause.block).flatMap (TextQuery.stepChars negations) ++
        TextQuery.closing.toList) : choices = choices' := by
  induction choices generalizing choices' with
  | nil =>
    cases choices' with
    | nil => rfl
    | cons choice' choices' =>
      obtain ⟨more', hmore'⟩ := Clause.block_eq_lead_cons choice'
      simp only [List.flatMap_nil, List.nil_append, List.flatMap_cons, hmore', List.cons_append,
        List.append_assoc] at heq
      exact absurd heq (closing_ne_step _ _ _)
  | cons choice choices ih =>
    obtain ⟨more, hmore⟩ := Clause.block_eq_lead_cons choice
    cases choices' with
    | nil =>
      simp only [List.flatMap_nil, List.nil_append, List.flatMap_cons, hmore, List.cons_append,
        List.append_assoc] at heq
      exact absurd heq.symm (closing_ne_step _ _ _)
    | cons choice' choices' =>
      obtain ⟨more', hmore'⟩ := Clause.block_eq_lead_cons choice'
      have hsteps := heq
      simp only [List.flatMap_cons, hmore, hmore', List.cons_append, List.append_assoc] at hsteps
      obtain rfl := step_choice_unique (h choice (by simp)) (h' choice' (by simp)) hsteps
      simp only [List.flatMap_cons, List.flatMap_append, List.append_assoc] at heq
      rw [ih (fun c hc => h c (List.mem_cons_of_mem _ hc))
        (fun c hc => h' c (List.mem_cons_of_mem _ hc)) (List.append_cancel_left heq)]

/-! ## The alternatives of a wording -/

theorem alternativesOf_ne_nil (value : String) (isQuoted : Bool) :
    alternativesOf value isQuoted ≠ [] := by
  cases isQuoted <;> simp [alternativesOf]

theorem isFormOf_of_mem {a value : String} {isQuoted : Bool}
    (h : a ∈ alternativesOf value isQuoted) : IsFormOf a value := by
  cases isQuoted with
  | true => exact .inl (by simpa [alternativesOf] using h)
  | false => simpa [alternativesOf] using h

theorem forall₂_isFormOf {choice : List String} {terms : List (String × Bool)}
    (h : Relaxation.IsChoice choice (terms.map fun t => alternativesOf t.1 t.2)) :
    List.Forall₂ IsFormOf choice (terms.map Prod.fst) := by
  rw [Relaxation.IsChoice, List.forall₂_map_right_iff] at h
  rw [List.forall₂_map_right_iff]
  exact h.imp fun a t ha => isFormOf_of_mem ha

theorem eq_exact_of_isFirst {choice : List String} {terms : List (String × Bool)}
    (h : Relaxation.IsFirst choice (terms.map fun t => alternativesOf t.1 t.2)) :
    choice = (terms.map Prod.fst).map exactForm := by
  induction terms generalizing choice with
  | nil => cases h; rfl
  | cons t terms ih =>
    obtain ⟨value, isQuoted⟩ := t
    cases h with
    | cons ha hrest =>
      have hexact : (alternativesOf value isQuoted).head? = some (exactForm value) := by
        cases isQuoted <;> rfl
      rw [hexact] at ha
      rw [ih hrest, ← Option.some.inj ha]
      rfl

/-- The last choice tells which terms were quoted. -/
theorem terms_eq_of_isLast {choice : List String} {terms terms' : List (String × Bool)}
    (hvalues : terms.map Prod.fst = terms'.map Prod.fst)
    (h : Relaxation.IsLast choice (terms.map fun t => alternativesOf t.1 t.2))
    (h' : Relaxation.IsLast choice (terms'.map fun t => alternativesOf t.1 t.2)) :
    terms = terms' := by
  induction terms generalizing choice terms' with
  | nil => exact (List.map_eq_nil_iff.1 hvalues.symm).symm
  | cons t terms ih =>
    cases terms' with
    | nil => cases hvalues
    | cons t' terms' =>
      obtain ⟨value, isQuoted⟩ := t
      obtain ⟨value', isQuoted'⟩ := t'
      obtain ⟨hvalue, hmore⟩ := List.cons.inj hvalues
      obtain rfl : value = value' := hvalue
      cases h with
      | cons ha hrest =>
        cases h' with
        | cons ha' hrest' =>
          have hquoted : isQuoted = isQuoted' := by
            have hlast := ha.trans ha'.symm
            cases isQuoted <;> cases isQuoted' <;>
              simp [alternativesOf, exactForm_ne_wildcardForm,
                (exactForm_ne_wildcardForm _ _).symm] at hlast ⊢
          rw [hquoted, ih hmore hrest hrest']

/-! ## The query of a wording -/

/-- The query of a wording with terms: the choices start with the exact one, and the last one takes
the last alternatives. -/
theorem NormalQuery.HasWording.exists_choices {q : NormalQuery} {w : Wording} (h : q.HasWording w)
    (hne : w.terms ≠ []) (relaxation : Relaxation) :
    ∃ choices more last, choices = (w.terms.map Prod.fst).map exactForm :: more ∧
      choices.getLast? = some last ∧
      Relaxation.IsLast last (w.terms.map fun t => alternativesOf t.1 t.2) ∧
      (∀ choice ∈ choices, List.Forall₂ IsFormOf choice (w.terms.map Prod.fst)) ∧
      q.textQuery relaxation.name =
        .ok (some (TextQuery.ofClauses q.negations (choices.flatMap Clause.block))) := by
  have halternatives : ∀ alternatives ∈ q.terms, alternatives ≠ [] := by
    rw [h.terms_eq]
    simp only [List.mem_map]
    rintro _ ⟨t, -, rfl⟩
    exact alternativesOf_ne_nil t.1 t.2
  obtain ⟨choices, hchoices, hmem, ⟨first, hhead, hfirst⟩, ⟨last, hget, hlast⟩⟩ :=
    Relaxation.choices_spec relaxation halternatives
  rw [h.terms_eq] at hmem hfirst hlast
  obtain ⟨more, hmore⟩ := List.head?_eq_some_iff.1 hhead
  refine ⟨choices, more, last, ?_, hget, hlast, ?_, ?_⟩
  · rw [hmore, eq_exact_of_isFirst hfirst]
  · exact fun choice hchoice => forall₂_isFormOf (hmem choice hchoice)
  · exact NormalQuery.textQuery_eq (by simpa [h.terms_eq] using hne) hchoices

/-- A full-text query loses nothing. Under either relaxation, a search with terms in normal form has
a full-text query, and two such searches that have the same one look for the same values in the same
order, quoted alike, and leave out the same values in the same order. -/
theorem textQuery_determines_wording (relaxation : Relaxation) {q q' : NormalQuery} {w w' : Wording}
    (h : q.HasWording w) (h' : q'.HasWording w') (hne : w.terms ≠ []) (hne' : w'.terms ≠ []) :
    ∃ text text', q.textQuery relaxation.name = .ok (some text) ∧
      q'.textQuery relaxation.name = .ok (some text') ∧
      (text = text' → w = w' ∧ q.terms = q'.terms ∧ q.negations = q'.negations) := by
  obtain ⟨choices, more, last, hmore, hget, hlast, hforms, htext⟩ := h.exists_choices hne relaxation
  obtain ⟨choices', more', last', hmore', hget', hlast', hforms', htext'⟩ :=
    h'.exists_choices hne' relaxation
  refine ⟨_, _, htext, htext', fun heq => ?_⟩
  have hchars := congrArg String.toList heq
  simp only [TextQuery.toList_ofClauses, List.append_cancel_left_eq] at hchars
  obtain ⟨block, hblock⟩ := Clause.block_eq_lead_cons ((w.terms.map Prod.fst).map exactForm)
  obtain ⟨block', hblock'⟩ := Clause.block_eq_lead_cons ((w'.terms.map Prod.fst).map exactForm)
  -- the first step is exact on both sides
  have hsteps := hchars
  rw [h.negations_eq, h'.negations_eq, hmore, hmore'] at hsteps
  simp only [List.flatMap_cons, hblock, hblock', List.cons_append, List.append_assoc] at hsteps
  have hclean : ∀ {w : Wording}, (∀ t ∈ w.terms, IsClean t.1) →
      ∀ value ∈ w.terms.map Prod.fst, IsClean value := by
    simp only [List.mem_map]
    rintro w hw _ ⟨t, ht, rfl⟩
    exact hw t ht
  obtain ⟨hvalues, hexcluded⟩ := step_exact_unique (by simpa using hne) (by simpa using hne')
    (hclean h.clean_terms) (hclean h'.clean_terms) h.clean_excluded h'.clean_excluded hsteps
  -- so that the choices are between the same forms
  have hnegations : q.negations = q'.negations := by
    rw [h.negations_eq, h'.negations_eq, hexcluded]
  rw [hnegations] at hchars
  rw [← hvalues] at hforms'
  obtain rfl := choices_unique hforms hforms' hchars
  obtain rfl := Option.some.inj (hget.symm.trans hget')
  have hterms := terms_eq_of_isLast hvalues hlast hlast'
  have hw : w = w' := by
    obtain ⟨terms, excluded⟩ := w
    obtain ⟨terms', excluded'⟩ := w'
    obtain rfl : terms = terms' := hterms
    obtain rfl : excluded = excluded' := hexcluded
    rfl
  refine ⟨hw, ?_, hnegations⟩
  rw [h.terms_eq, h'.terms_eq, hw]

/-- One term that holds the connective is not mistaken for two terms. -/
theorem textQuery_determines_wording_connective :
    NormalQuery.HasWording ⟨[["\x7ba AND b\x7d", "%a AND b%"]], ["\x7bc\x7d"], []⟩
      ⟨[("a AND b", false)], ["c"]⟩ ∧
    NormalQuery.HasWording ⟨[["\x7ba\x7d", "%a%"], ["\x7bb\x7d"]], ["\x7bc\x7d"], []⟩
      ⟨[("a", false), ("b", true)], ["c"]⟩ ∧
    ∃ text text', NormalQuery.textQuery "tiered"
        ⟨[["\x7ba AND b\x7d", "%a AND b%"]], ["\x7bc\x7d"], []⟩ = .ok (some text) ∧
      NormalQuery.textQuery "tiered"
        ⟨[["\x7ba\x7d", "%a%"], ["\x7bb\x7d"]], ["\x7bc\x7d"], []⟩ = .ok (some text') ∧
      text ≠ text' := by
  have h : NormalQuery.HasWording ⟨[["\x7ba AND b\x7d", "%a AND b%"]], ["\x7bc\x7d"], []⟩
      ⟨[("a AND b", false)], ["c"]⟩ :=
    ⟨by decide, by decide, by decide, by decide⟩
  have h' : NormalQuery.HasWording ⟨[["\x7ba\x7d", "%a%"], ["\x7bb\x7d"]], ["\x7bc\x7d"], []⟩
      ⟨[("a", false), ("b", true)], ["c"]⟩ :=
    ⟨by decide, by decide, by decide, by decide⟩
  obtain ⟨text, text', htext, htext', hsame⟩ :=
    textQuery_determines_wording .tiered h h' (by decide) (by decide)
  refine ⟨h, h', text, text', htext, htext', fun heq => ?_⟩
  have hterms := (hsame heq).2.1
  exact absurd hterms (by decide)

end StockQuery
