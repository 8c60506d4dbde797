import Mathlib.Algebra.Ring.Nat
import StockQuery.Proofs.Clauses
import StockQuery.Proofs.Series

/-!
# User text and the tags of a full-text query

A full-text query is markup around clauses, and the clauses hold what the user typed. Quotation
marks and brackets are left out of a term and operators are escaped, but neither is done to the
character `<`. A clause is therefore free of it exactly if the search string is, and a search string
that does hold it can close the step it stands in.
-/

namespace StockQuery

/-! ## Counting a pattern -/

/-- The number of places where the pattern stands in a text. -/
def occurrences (pattern : List Char) : List Char → Nat
  | [] => 0
  | c :: cs => (if pattern.isPrefixOf (c :: cs) then 1 else 0) + occurrences pattern cs

/-- A pattern does not reach over a character that it does not hold. -/
theorem isPrefixOf_append_cons {x : Char} {pattern : List Char} (h : x ∉ pattern)
    (a b : List Char) : pattern.isPrefixOf (a ++ x :: b) = pattern.isPrefixOf a := by
  induction pattern generalizing a with
  | nil => simp
  | cons p pattern ih =>
    have hp : (p == x) = false := by
      simpa using fun heq : p = x => h (heq ▸ List.mem_cons_self)
    have hrest : x ∉ pattern := fun hx => h (List.mem_cons_of_mem _ hx)
    cases a with
    | nil => simp [List.isPrefixOf, hp]
    | cons c a => simp [List.isPrefixOf, ih hrest]

/-- The places are counted on both sides of such a character. -/
theorem occurrences_append_cons {x : Char} {pattern : List Char} (h : x ∉ pattern)
    (hne : pattern ≠ []) (a b : List Char) :
    occurrences pattern (a ++ x :: b) = occurrences pattern a + occurrences pattern b := by
  induction a with
  | nil =>
    have hnil := isPrefixOf_append_cons h [] b
    obtain ⟨p, more, rfl⟩ := List.exists_cons_of_ne_nil hne
    rw [List.nil_append] at hnil ⊢
    simp only [occurrences, hnil]
    simp [List.isPrefixOf]
  | cons c a ih =>
    have hcons := isPrefixOf_append_cons h (c :: a) b
    rw [List.cons_append] at hcons ⊢
    rw [occurrences, occurrences, hcons, ih]
    omega

/-- A pattern starts where its first character stands. -/
theorem occurrences_of_notMem {x : Char} {pattern cs : List Char} (h : x ∉ cs) :
    occurrences (x :: pattern) cs = 0 := by
  induction cs with
  | nil => rfl
  | cons c cs ih =>
    have hc : (x == c) = false := by
      simpa using fun heq : x = c => h (heq ▸ List.mem_cons_self)
    rw [occurrences, ih fun hx => h (List.mem_cons_of_mem _ hx)]
    simp [List.isPrefixOf, hc]

theorem sum_occurrences_of_notMem {x : Char} {texts : List (List Char)} (h : ∀ cs ∈ texts, x ∉ cs)
    (pattern : List Char) : (texts.map (occurrences (x :: pattern))).sum = 0 := by
  rw [List.sum_eq_zero_iff_forall_eq_nat]
  intro count hcount
  obtain ⟨cs, hcs, rfl⟩ := List.mem_map.1 hcount
  exact occurrences_of_notMem (h cs hcs)

/-- The step of a text. -/
def tagged (text : List Char) : List Char := "<seq>(".toList ++ (text ++ ")</seq>".toList)

theorem tagged_eq (text : List Char) :
    tagged text = "<seq>".toList ++ '(' :: (text ++ ')' :: "</seq>".toList) := rfl

/-- Steps have one tag of each kind, and those that stand in their texts. -/
theorem occurrences_steps {pattern : List Char} (hopen : '(' ∉ pattern) (hclose : ')' ∉ pattern)
    (hne : pattern ≠ []) (start : List Char) (text : List Char) (texts : List (List Char)) :
    occurrences pattern (start ++ ((text :: texts).flatMap tagged ++ TextQuery.closing.toList)) =
      occurrences pattern (start ++ "<seq>".toList) + occurrences pattern text +
        occurrences pattern ("</seq>".toList ++
          (texts.flatMap tagged ++ TextQuery.closing.toList)) := by
  have hsplit : start ++ ((text :: texts).flatMap tagged ++ TextQuery.closing.toList) =
      (start ++ "<seq>".toList) ++ '(' :: (text ++ ')' :: ("</seq>".toList ++
        (texts.flatMap tagged ++ TextQuery.closing.toList))) := by
    simp only [List.flatMap_cons, tagged_eq, List.append_assoc, List.cons_append]
  rw [hsplit, occurrences_append_cons hopen hne, occurrences_append_cons hclose hne]
  omega

theorem occurrences_tagged {pattern : List Char} (hopen : '(' ∉ pattern) (hclose : ')' ∉ pattern)
    (hne : pattern ≠ []) (hbetween : occurrences pattern ("</seq>".toList ++ "<seq>".toList) = 1)
    (texts : List (List Char)) :
    occurrences pattern ("</seq>".toList ++ (texts.flatMap tagged ++ TextQuery.closing.toList)) =
      occurrences pattern ("</seq>".toList ++ TextQuery.closing.toList) +
        (texts.length + (texts.map (occurrences pattern)).sum) := by
  induction texts with
  | nil => simp only [List.flatMap_nil, List.nil_append, List.length_nil, List.map_nil,
      List.sum_nil, Nat.add_zero]
  | cons text texts ih =>
    rw [occurrences_steps hopen hclose hne, ih, hbetween]
    simp only [List.length_cons, List.map_cons, List.sum_cons]
    omega

/-- A full-text query has one tag of a kind for each clause, and those that stand in the clauses, if
the opening and the closing with the tag next to them have one between them. -/
theorem occurrences_query {pattern : List Char} (hopen : '(' ∉ pattern) (hclose : ')' ∉ pattern)
    (hne : pattern ≠ []) (hbetween : occurrences pattern ("</seq>".toList ++ "<seq>".toList) = 1)
    (hends : occurrences pattern (TextQuery.opening.toList ++ "<seq>".toList) +
      occurrences pattern ("</seq>".toList ++ TextQuery.closing.toList) = 1)
    {texts : List (List Char)} (hsome : texts ≠ []) :
    occurrences pattern (TextQuery.opening.toList ++
        (texts.flatMap tagged ++ TextQuery.closing.toList)) =
      texts.length + (texts.map (occurrences pattern)).sum := by
  obtain ⟨text, texts, rfl⟩ := List.exists_cons_of_ne_nil hsome
  rw [occurrences_steps hopen hclose hne, occurrences_tagged hopen hclose hne hbetween]
  simp only [List.length_cons, List.map_cons, List.sum_cons]
  omega

/-! ## The character in a clause -/

theorem mem_intercalate {c : Char} {sep : List Char} (hsep : c ∉ sep) {ws : List (List Char)} :
    c ∈ sep.intercalate ws ↔ ∃ w ∈ ws, c ∈ w := by
  cases ws with
  | nil => simp
  | cons w ws => simp [Text.intercalate_cons, hsep]

/-- The words of a clause. -/
def Clause.words : Clause → List String
  | near words => words
  | every words => words

theorem Clause.words_of_mem_block {clause : Clause} {choice : List String}
    (h : clause ∈ block choice) : clause.words = choice := by
  unfold block at h
  split at h
  · simp only [List.mem_cons, List.not_mem_nil, or_false] at h
    rcases h with rfl | rfl <;> rfl
  · simp only [List.mem_cons, List.not_mem_nil, or_false] at h
    rw [h]
    rfl

theorem mem_clauseText_iff {negations : List String} {clause : Clause} :
    '<' ∈ (TextQuery.clauseText negations clause).toList ↔
      (∃ word ∈ clause.words, '<' ∈ word.toList) ∨ ∃ word ∈ negations, '<' ∈ word.toList := by
  have hclause : '<' ∈ clause.text.toList ↔ ∃ word ∈ clause.words, '<' ∈ word.toList := by
    cases clause with
    | near words =>
      rw [Clause.toList_near, List.mem_append, List.mem_append, mem_intercalate (by decide)]
      simp [Clause.words]
    | every words =>
      rw [Clause.toList_every, mem_intercalate (by decide)]
      simp [Clause.words]
  have hexclusion : '<' ∈ TextQuery.exclusionChars negations ↔
      ∃ word ∈ negations, '<' ∈ word.toList := by
    by_cases hne : negations = []
    · simp [hne, TextQuery.exclusionChars]
    · rw [TextQuery.exclusionChars_of_ne_nil hne, List.mem_append, List.mem_append,
        mem_intercalate (by decide)]
      simp
  rw [TextQuery.toList_clauseText, List.mem_append, hclause, hexclusion]

theorem mem_escapeChars {cs : List Char} : '<' ∈ escapeChars cs ↔ '<' ∈ cs := by
  simp only [escapeChars, List.mem_flatMap]
  constructor
  · rintro ⟨c, hc, hmem⟩
    unfold escapeChar at hmem
    split at hmem
    · have : '<' = c := by simpa using hmem
      exact this ▸ hc
    · have : '<' = c := by simpa using hmem
      exact this ▸ hc
  · intro hmem
    exact ⟨'<', hmem, by decide⟩

theorem mem_sanitizeChars {cs : List Char} : '<' ∈ sanitizeChars cs ↔ '<' ∈ cs := by
  have hkept : isForbidden '<' = false := by decide
  simp [sanitizeChars, hkept]

theorem mem_exact {t : Term} : '<' ∈ t.exact.toList ↔ '<' ∈ t.text.toList := by
  simp [Term.exact, exactForm, mem_sanitizeChars]

/-- No form of a term leaves the character out. -/
theorem mem_of_mem_alternatives {t : Term} {a : String} (h : a ∈ t.alternatives) :
    '<' ∈ a.toList ↔ '<' ∈ t.text.toList := by
  unfold Term.alternatives at h
  split at h
  · simp only [List.mem_cons, List.not_mem_nil, or_false] at h
    rcases h with rfl | rfl
    · exact mem_exact
    · simp [wildcardForm, mem_escapeChars, mem_sanitizeChars]
  · obtain rfl : a = t.exact := by simpa using h
    exact mem_exact

/-! ## From the search string to the clauses -/

open Search

theorem mem_item_iff {tok : List Char} {node : Node} (h : Denotes filterNames tok node) :
    '<' ∈ tok ↔ ∃ t, node = .term t ∧ '<' ∈ t.text.toList := by
  cases h with
  | @filter item h =>
    simp only [reduceCtorEq, false_and, exists_false, iff_false]
    cases h with
    | @mk negated name first slots hname hfirst hletters =>
      have hletter : ∀ {cs : List Char}, (∀ c ∈ cs, c.isAlpha = true) → '<' ∉ cs :=
        fun hcs hmem => absurd (hcs _ hmem) (by decide)
      have hname' := hletter fun c => (isLetterName_of_mem_filterNames name hname).isAlpha
      have hfirst' := hletter (hletters first (by simp))
      have hslots : ∀ slot ∈ slots, '<' ∉ slot := fun slot hslot =>
        hletter (hletters slot (List.mem_cons_of_mem _ hslot))
      rw [mem_signed (by decide)]
      simpa [hname', hfirst'] using hslots
  | @term t h hf =>
    cases h with
    | word negated h => simp [mem_signed]
    | quoted negated h => simp [mem_signed, quoted]

/-- In a search string, the character stands in a term. -/
theorem mem_series_iff {cs : List Char} {items : List PlacedNode}
    (h : Series filterNames cs items) :
    '<' ∈ cs ↔ ∃ t, .term t ∈ items.map PlacedNode.node ∧ '<' ∈ t.text.toList := by
  induction h with
  | done n => simp [spaces]
  | @item n tok rest node items hdenotes hboundary hrest ih =>
    have hspaces : '<' ∉ spaces n := by simp [spaces]
    rw [List.mem_append, List.mem_append, mem_item_iff hdenotes, ih]
    simp only [hspaces, false_or, List.map_cons, List.mem_cons]
    constructor
    · rintro (⟨t, rfl, ht⟩ | ⟨t, ht, hmem⟩)
      · exact ⟨t, .inl rfl, ht⟩
      · exact ⟨t, .inr ht, hmem⟩
    · rintro ⟨t, rfl | ht, hmem⟩
      · exact .inl ⟨t, rfl, hmem⟩
      · exact .inr ⟨t, ht, hmem⟩

theorem mem_raw_iff {limit : Option Int} {raw : String} {tree : Tree}
    (hparse : Search.parse filterNames limit raw = .ok tree) :
    '<' ∈ raw.toList ↔ ∃ t, .term t ∈ tree ∧ '<' ∈ t.text.toList := by
  rcases cases_of_parse_ok hparse with ⟨hblank, rfl⟩ | ⟨items, hread, -, rfl⟩
  · simp only [List.not_mem_nil, false_and, exists_false, iff_false]
    intro hmem
    have hlt : Text.isBlank '<' = true := List.all_eq_true.1 hblank _ hmem
    exact absurd hlt (by decide)
  · exact mem_series_iff (readItems_sound isLetterName_of_mem_filterNames hread)

/-- A tree holds the character in a term exactly if its normal form holds it in a word. -/
theorem mem_tree_iff (tree : Tree) :
    (∃ t, .term t ∈ tree ∧ '<' ∈ t.text.toList) ↔
      (∃ alternatives ∈ (NormalQuery.ofTree tree).terms, ∃ a ∈ alternatives, '<' ∈ a.toList) ∨
      ∃ word ∈ (NormalQuery.ofTree tree).negations, '<' ∈ word.toList := by
  simp only [NormalQuery.ofTree, List.mem_map, List.mem_filterMap]
  constructor
  · rintro ⟨t, ht, hmem⟩
    cases hneg : t.negated with
    | false =>
      refine .inl ⟨t.alternatives, ⟨t, ⟨_, ht, by simp [Node.wanted?, hneg]⟩, rfl⟩, ?_⟩
      obtain ⟨a, more, hcons⟩ := List.exists_cons_of_ne_nil t.alternatives_ne_nil
      have ha : a ∈ t.alternatives := by simp [hcons]
      exact ⟨a, ha, (mem_of_mem_alternatives ha).2 hmem⟩
    | true =>
      exact .inr ⟨t.exact, ⟨t, ⟨_, ht, by simp [Node.unwanted?, hneg]⟩, rfl⟩, mem_exact.2 hmem⟩
  · rintro (⟨_, ⟨t, ⟨node, hnode, hwanted⟩, rfl⟩, a, ha, hmem⟩ |
      ⟨_, ⟨t, ⟨node, hnode, hunwanted⟩, rfl⟩, hmem⟩)
    · refine ⟨t, ?_, (mem_of_mem_alternatives ha).1 hmem⟩
      cases node with
      | filter item => cases hwanted
      | term t' =>
        simp only [Node.wanted?, Option.ite_none_left_eq_some, Option.some.injEq] at hwanted
        exact hwanted.2 ▸ hnode
    · refine ⟨t, ?_, mem_exact.1 hmem⟩
      cases node with
      | filter item => cases hunwanted
      | term t' =>
        simp only [Node.unwanted?, Option.ite_none_right_eq_some, Option.some.injEq] at hunwanted
        exact hunwanted.2 ▸ hnode

/-- The clauses of a search hold the character exactly if its normal form does. -/
theorem mem_clauses_iff {query : NormalQuery} {choices : List (List String)}
    (hchoice : ∀ choice ∈ choices, Relaxation.IsChoice choice query.terms)
    {first : List String} (hhead : choices.head? = some first)
    (halike : ∀ alternatives ∈ query.terms, ∀ a ∈ alternatives, ∀ a' ∈ alternatives,
      '<' ∈ a.toList → '<' ∈ a'.toList) :
    (∃ clause ∈ choices.flatMap Clause.block,
      '<' ∈ (TextQuery.clauseText query.negations clause).toList) ↔
      (∃ alternatives ∈ query.terms, ∃ a ∈ alternatives, '<' ∈ a.toList) ∨
      ∃ word ∈ query.negations, '<' ∈ word.toList := by
  have hfirst : first ∈ choices := List.mem_of_head? hhead
  obtain ⟨more, hlead⟩ := Clause.block_eq_lead_cons first
  have hclause : Clause.lead first ∈ choices.flatMap Clause.block :=
    List.mem_flatMap.2 ⟨first, hfirst, by simp [hlead]⟩
  have hwords : (Clause.lead first).words = first :=
    Clause.words_of_mem_block (by simp [hlead])
  simp only [mem_clauseText_iff]
  constructor
  · rintro ⟨clause, hmem, ⟨word, hword, hlt⟩ | hexcluded⟩
    · obtain ⟨choice, hin, hblock⟩ := List.mem_flatMap.1 hmem
      rw [Clause.words_of_mem_block hblock] at hword
      obtain ⟨i, hi, rfl⟩ := List.getElem_of_mem hword
      have hi' : i < query.terms.length := (hchoice choice hin).length_eq ▸ hi
      exact .inl ⟨query.terms[i], List.getElem_mem hi', _, (hchoice choice hin).get hi hi', hlt⟩
    · exact .inr hexcluded
  · rintro (⟨alternatives, hmem, a, ha, hlt⟩ | hexcluded)
    · -- the first choice takes an alternative of the same term
      obtain ⟨i, hi, rfl⟩ := List.getElem_of_mem hmem
      have hi' : i < first.length := (hchoice first hfirst).length_eq ▸ hi
      have hat := (hchoice first hfirst).get hi' hi
      refine ⟨_, hclause, .inl ⟨first[i], ?_, halike _ hmem a ha _ hat hlt⟩⟩
      rw [hwords]
      exact List.getElem_mem hi'
    · exact ⟨_, hclause, .inr hexcluded⟩

theorem toList_ofClauses_tagged (negations : List String) (clauses : List Clause) :
    (TextQuery.ofClauses negations clauses).toList = TextQuery.opening.toList ++
      ((clauses.map fun clause => (TextQuery.clauseText negations clause).toList).flatMap tagged ++
        TextQuery.closing.toList) := by
  rw [TextQuery.toList_ofClauses, List.flatMap_map]
  have hstep : ∀ clause, TextQuery.stepChars negations clause =
      tagged (TextQuery.clauseText negations clause).toList := by
    intro clause
    show TextQuery.stepChars negations clause = "<seq>(".toList ++
      ((TextQuery.clauseText negations clause).toList ++ ")</seq>".toList)
    rw [TextQuery.stepChars_eq, TextQuery.toList_clauseText, List.append_assoc]
  rw [funext hstep]

theorem NormalQuery.terms_ofTree_ne_nil {tree : Tree}
    (h : ∃ node ∈ tree, ∃ t, node.wanted? = some t) : (NormalQuery.ofTree tree).terms ≠ [] := by
  obtain ⟨node, hnode, t, ht⟩ := h
  exact List.ne_nil_of_mem (List.mem_map_of_mem (List.mem_filterMap.2 ⟨node, hnode, ht⟩))

/-- A full-text query is the opening, one step for every clause, and the closing. It has one pair of
tags for each clause and those that stand in a clause, and a clause with the character `<` exists
exactly if the search string holds it. Without it the tags are the steps. -/
theorem textQuery_tags {limit : Option Int} {raw : String} {tree : Tree} (relaxation : Relaxation)
    (hparse : Search.parse filterNames limit raw = .ok tree)
    (hwanted : ∃ node ∈ tree, ∃ t, node.wanted? = some t) :
    ∃ (clauses : List Clause) (texts : List (List Char)) (text : String),
      Clause.ofTerms relaxation (NormalQuery.ofTree tree).terms = .ok clauses ∧
      texts = clauses.map (fun clause =>
        (TextQuery.clauseText (NormalQuery.ofTree tree).negations clause).toList) ∧
      RankedQuery.parse limit relaxation.name raw =
        .ok ⟨some text, (NormalQuery.ofTree tree).filters⟩ ∧
      text.toList = TextQuery.opening.toList ++
        (texts.flatMap (fun c => "<seq>(".toList ++ (c ++ ")</seq>".toList)) ++
          TextQuery.closing.toList) ∧
      occurrences "<seq>".toList text.toList =
        clauses.length + (texts.map (occurrences "<seq>".toList)).sum ∧
      occurrences "</seq>".toList text.toList =
        clauses.length + (texts.map (occurrences "</seq>".toList)).sum ∧
      ((∀ c ∈ texts, '<' ∉ c) ↔ '<' ∉ raw.toList) ∧
      ('<' ∉ raw.toList → occurrences "<seq>".toList text.toList = clauses.length ∧
        occurrences "</seq>".toList text.toList = clauses.length) := by
  have hne := NormalQuery.terms_ofTree_ne_nil hwanted
  have halternatives : ∀ alternatives ∈ (NormalQuery.ofTree tree).terms, alternatives ≠ [] := by
    intro alternatives hmem
    obtain ⟨t, -, rfl⟩ := List.mem_map.1 hmem
    exact t.alternatives_ne_nil
  obtain ⟨choices, hchoices, hchoice, ⟨first, hhead, -⟩, -⟩ :=
    Relaxation.choices_spec relaxation halternatives
  set query := NormalQuery.ofTree tree
  set clauses := choices.flatMap Clause.block with hclauses
  set texts := clauses.map fun clause => (TextQuery.clauseText query.negations clause).toList
    with htexts
  have htext : (TextQuery.ofClauses query.negations clauses).toList =
      TextQuery.opening.toList ++ (texts.flatMap tagged ++ TextQuery.closing.toList) :=
    toList_ofClauses_tagged query.negations clauses
  have hlength : texts.length = clauses.length := List.length_map _
  have hsome : texts ≠ [] := by
    obtain ⟨rest, hlead⟩ := Clause.block_eq_lead_cons first
    obtain ⟨more, hmore⟩ := List.head?_eq_some_iff.1 hhead
    simp [htexts, hclauses, hmore, hlead]
  have halike : ∀ alternatives ∈ query.terms, ∀ a ∈ alternatives, ∀ a' ∈ alternatives,
      '<' ∈ a.toList → '<' ∈ a'.toList := by
    intro alternatives hmem a ha a' ha' hlt
    obtain ⟨t, -, rfl⟩ := List.mem_map.1 hmem
    exact (mem_of_mem_alternatives ha').2 ((mem_of_mem_alternatives ha).1 hlt)
  have hfree : (∀ c ∈ texts, '<' ∉ c) ↔ '<' ∉ raw.toList := by
    rw [mem_raw_iff hparse, mem_tree_iff, ← mem_clauses_iff hchoice hhead halike, ← hclauses]
    simp [htexts]
  have hopen : occurrences "<seq>".toList _ = _ := occurrences_query (by decide) (by decide)
    (by decide) (by decide) (by decide) hsome
  have hclose : occurrences "</seq>".toList _ = _ := occurrences_query (by decide) (by decide)
    (by decide) (by decide) (by decide) hsome
  rw [← htext, hlength] at hopen hclose
  refine ⟨clauses, texts, _, ?_, rfl, RankedQuery.parse_eq hparse hne hchoices, htext, hopen,
    hclose, hfree, fun hraw => ?_⟩
  · rw [Clause.ofTerms, hchoices]
    rfl
  · have hzero := sum_occurrences_of_notMem (hfree.2 hraw)
    have hopenZero : (texts.map (occurrences "<seq>".toList)).sum = 0 := hzero "seq>".toList
    have hcloseZero : (texts.map (occurrences "</seq>".toList)).sum = 0 := hzero "/seq>".toList
    rw [hopen, hclose, hopenZero, hcloseZero]
    exact ⟨rfl, rfl⟩

/-- A word, a negated word and a quoted text make two choices of two clauses each. -/
theorem textQuery_tags_two_choices :
    Search.parse filterNames none "a>b -c \"d e\"" = .ok [.term ⟨"a>b", false, false⟩,
      .term ⟨"c", false, true⟩, .term ⟨"d e", true, false⟩] ∧
    (∃ node ∈ [Node.term ⟨"a>b", false, false⟩, .term ⟨"c", false, true⟩,
      .term ⟨"d e", true, false⟩], ∃ t, node.wanted? = some t) ∧
    ∃ text, RankedQuery.parse none Relaxation.exhaustive.name "a>b -c \"d e\"" =
        .ok ⟨some text, []⟩ ∧
      occurrences "<seq>".toList text.toList = 4 ∧
      occurrences "</seq>".toList text.toList = 4 := by
  have hparse : Search.parse filterNames none "a>b -c \"d e\"" = .ok [.term ⟨"a>b", false, false⟩,
      .term ⟨"c", false, true⟩, .term ⟨"d e", true, false⟩] := by decide +kernel
  have hwanted : ∃ node ∈ [Node.term ⟨"a>b", false, false⟩, .term ⟨"c", false, true⟩,
      .term ⟨"d e", true, false⟩], ∃ t, node.wanted? = some t := ⟨_, List.mem_cons_self, _, rfl⟩
  obtain ⟨clauses, texts, text, hclauses, -, htext, -, -, -, -, htags⟩ :=
    textQuery_tags .exhaustive hparse hwanted
  have hfour : ∃ clauses, Clause.ofTerms .exhaustive (NormalQuery.ofTree
      [.term ⟨"a>b", false, false⟩, .term ⟨"c", false, true⟩, .term ⟨"d e", true, false⟩]).terms =
      .ok clauses ∧ clauses.length = 4 := ⟨_, rfl, by decide⟩
  obtain ⟨clauses', hclauses', hlength⟩ := hfour
  rw [hclauses] at hclauses'
  obtain rfl := Except.ok.inj hclauses'
  rw [hlength] at htags
  exact ⟨hparse, hwanted, text, htext, htags (by decide)⟩

/-- A quoted text can close the step that it stands in and open another one: there is one clause,
but there are two pairs of tags. -/
theorem quoted_tags_are_markup :
    Search.parse filterNames none "\"</seq><seq>\"" = .ok [.term ⟨"</seq><seq>", true, false⟩] ∧
    Clause.ofTerms .exhaustive (NormalQuery.ofTree [.term ⟨"</seq><seq>", true, false⟩]).terms =
      .ok [.every ["\x7b</seq><seq>\x7d"]] ∧
    '<' ∈ (TextQuery.clauseText [] (.every ["\x7b</seq><seq>\x7d"])).toList ∧
    ∃ text, RankedQuery.parse none "exhaustive" "\"</seq><seq>\"" = .ok ⟨some text, []⟩ ∧
      occurrences "<seq>".toList text.toList = 2 ∧
      occurrences "</seq>".toList text.toList = 2 :=
  ⟨by decide +kernel, by decide +kernel, by decide +kernel, TextQuery.opening ++
    "<seq>(\x7b</seq><seq>\x7d)</seq>" ++ TextQuery.closing, by decide +kernel, by decide +kernel,
    by decide +kernel⟩

end StockQuery
