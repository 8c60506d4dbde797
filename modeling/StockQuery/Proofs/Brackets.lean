import StockQuery.Proofs.Markup
import StockQuery.Proofs.NormalForm
import StockQuery.Proofs.Unambiguous

/-!
# Reports without control sequences

A control sequence needs an opening bracket, and none gets into what is prepared for a search
string: sanitizing takes brackets out of terms, filters have letters as their values, and the SQL
text holds nothing that was typed. What is said of an accepted search string for people is therefore
written to a terminal and elsewhere alike, also where a term holds the escape character.
-/

namespace StockQuery

/-! ## Texts -/

/-- What holds of the elements of a list and of a separator holds of the list with the separator
between any two elements. -/
theorem forall_mem_intersperse {α : Type} {P : α → Prop} {sep : α} {l : List α} (hsep : P sep)
    (h : ∀ a ∈ l, P a) : ∀ a ∈ l.intersperse sep, P a := by
  induction l with
  | nil => exact List.forall_mem_nil _
  | cons a l ih =>
    obtain ⟨ha, hrest⟩ := List.forall_mem_cons.1 h
    cases l with
    | nil => exact List.forall_mem_singleton.2 ha
    | cons b l => exact List.forall_mem_cons.2 ⟨ha, List.forall_mem_cons.2 ⟨hsep, ih hrest⟩⟩

namespace Text

/-- A text without an opening bracket. -/
def Unbracketed (s : String) : Prop := '[' ∉ s.toList

/-- It can be decided whether a text has an opening bracket. -/
instance (s : String) : Decidable (Unbracketed s) := inferInstanceAs (Decidable (¬ _))

/-- No control sequence starts in a text without an opening bracket. -/
theorem Unbracketed.forOutput_eq {s : String} (h : Unbracketed s) (terminal : Bool) :
    forOutput terminal s = s :=
  forOutput_eq_self terminal fun hpair => h (hpair.subset (by decide))

/-- No bracket comes in where two texts meet. -/
theorem Unbracketed.append {s t : String} (hs : Unbracketed s) (ht : Unbracketed t) :
    Unbracketed (s ++ t) := by
  unfold Unbracketed
  rw [String.toList_append, List.mem_append]
  exact not_or.2 ⟨hs, ht⟩

/-- Nor where any number of them do. -/
theorem Unbracketed.join {texts : List String} (h : ∀ text ∈ texts, Unbracketed text) :
    Unbracketed (String.join texts) := by
  unfold Unbracketed
  rw [String.toList_join, List.mem_flatMap]
  rintro ⟨text, htext, hmem⟩
  exact h text htext hmem

/-- Nor with a separator between them that has none. -/
theorem Unbracketed.intercalate {sep : String} (hsep : Unbracketed sep) {texts : List String}
    (h : ∀ text ∈ texts, Unbracketed text) : Unbracketed (String.intercalate sep texts) := by
  unfold Unbracketed
  rw [String.toList_intercalate, mem_intercalate hsep]
  rintro ⟨cs, hcs, hmem⟩
  obtain ⟨text, htext, rfl⟩ := List.mem_map.1 hcs
  exact h text htext hmem

/-- A number in decimal digits has no bracket. -/
theorem unbracketed_nat (n : Nat) : Unbracketed (toString n) := by
  intro hmem
  have hdigit : '[' ∈ Nat.toDigits 10 n := by simpa using hmem
  exact absurd (Nat.isDigit_of_mem_toDigits (by decide) (by decide) hdigit) (by decide)

/-- Nor has a text of letters. -/
theorem unbracketed_of_isAlpha {s : String} (h : ∀ c ∈ s.toList, c.isAlpha = true) :
    Unbracketed s :=
  fun hmem => absurd (h _ hmem) (by decide)

end Text

open Text

/-! ## Full-text queries -/

/-- Sanitizing takes brackets out, and an exact form adds none. -/
theorem unbracketed_exactForm {value : String} (h : IsClean value) :
    Unbracketed (exactForm value) := by
  have hvalue : '[' ∉ value.toList := h.notMem (by decide)
  unfold Unbracketed
  simp [toList_exactForm, hvalue]

/-- Nor does a wildcard form, whose operators get backslashes. -/
theorem unbracketed_wildcardForm {value : String} (h : IsClean value) :
    Unbracketed (wildcardForm value) := by
  have hvalue : '[' ∉ value.toList := h.notMem (by decide)
  have hescaped : '[' ∉ escapeChars value.toList := by
    intro hmem
    rcases mem_of_mem_escapeChars hmem with heq | hmem
    · exact absurd heq (by decide)
    · exact hvalue hmem
  unfold Unbracketed
  simp [toList_wildcardForm, hescaped]

/-- So no form of a term has a bracket. -/
theorem IsAlternatives.unbracketed {alternatives : List String} (h : IsAlternatives alternatives) :
    ∀ form ∈ alternatives, Unbracketed form := by
  cases h with
  | quoted h => exact List.forall_mem_singleton.2 (unbracketed_exactForm h)
  | word h hspace hhyphen =>
    exact List.forall_mem_cons.2 ⟨unbracketed_exactForm h,
      List.forall_mem_singleton.2 (unbracketed_wildcardForm h)⟩

/-- A clause adds no bracket to its words. -/
theorem Clause.unbracketed_text {clause : Clause} (h : ∀ word ∈ clause.words, Unbracketed word) :
    Unbracketed clause.text := by
  cases clause with
  | near words =>
    have hopen : Unbracketed "NEAR((" := by decide
    have hcomma : Unbracketed ", " := by decide
    have hdistance : Unbracketed "), " := by decide
    exact (((hopen.append (hcomma.intercalate h)).append hdistance).append
      (unbracketed_nat nearDistance)).append (by decide)
  | every words => exact Unbracketed.intercalate (by decide) h

namespace TextQuery

/-- The exclusion of other words adds none either. -/
theorem unbracketed_clauseText {negations : List String} {clause : Clause}
    (hnegations : ∀ word ∈ negations, Unbracketed word)
    (h : ∀ word ∈ clause.words, Unbracketed word) : Unbracketed (clauseText negations clause) := by
  have hclause := Clause.unbracketed_text h
  unfold clauseText exclusion?
  by_cases hempty : negations.isEmpty = true
  · rw [if_pos hempty]
    exact hclause
  · have hopen : Unbracketed "NOT (" := by decide
    have hbar : Unbracketed " | " := by decide
    have hspace : Unbracketed " " := by decide
    rw [if_neg hempty]
    exact (hclause.append hspace).append
      ((hopen.append (hbar.intercalate hnegations)).append (by decide))

/-- The tags around the clauses have no bracket. -/
theorem unbracketed_ofClauses {negations : List String} {clauses : List Clause}
    (hnegations : ∀ word ∈ negations, Unbracketed word)
    (h : ∀ clause ∈ clauses, ∀ word ∈ clause.words, Unbracketed word) :
    Unbracketed (ofClauses negations clauses) := by
  have hopening : Unbracketed opening := by decide
  have hclosing : Unbracketed closing := by decide
  refine (hopening.append (Unbracketed.join fun text htext => ?_)).append hclosing
  obtain ⟨clause, hclause, rfl⟩ := List.mem_map.1 htext
  have hseq : Unbracketed "<seq>" := by decide
  have hopen : Unbracketed "(" := by decide
  have hclose : Unbracketed ")" := by decide
  have hclauseText := unbracketed_clauseText hnegations (h clause hclause)
  exact (hseq.append ((hopen.append hclauseText).append hclose)).append (by decide)

end TextQuery

/-- The full-text query of a search has no bracket. -/
theorem NormalQuery.WellFormed.unbracketed_textQuery {query : NormalQuery} (h : query.WellFormed)
    {relaxation text : String} (htext : query.textQuery relaxation = .ok (some text)) :
    Unbracketed text := by
  have hnegations : ∀ word ∈ query.negations, Unbracketed word := by
    intro word hword
    obtain ⟨value, hclean, rfl⟩ := h.negations word hword
    exact unbracketed_exactForm hclean
  have hforms : ∀ alternatives ∈ query.terms, alternatives ≠ [] := by
    intro alternatives hmem
    cases h.terms alternatives hmem <;> exact List.cons_ne_nil _ _
  by_cases hname : relaxation ∈ ["exhaustive", "tiered"]
  · obtain ⟨relaxation, rfl⟩ := Relaxation.exists_name_eq hname
    by_cases hterms : query.terms = []
    · rw [textQuery, Relaxation.ofName_name] at htext
      replace htext : TextQuery.ofNormal relaxation query = .ok (some text) := htext
      rw [TextQuery.ofNormal, hterms] at htext
      cases htext
    · obtain ⟨choices, hchoices, hchoice, -⟩ := relaxation.choices_spec hforms
      rw [textQuery_eq hterms hchoices] at htext
      obtain rfl := Option.some.inj (Except.ok.inj htext)
      refine TextQuery.unbracketed_ofClauses hnegations fun clause hclause word hword => ?_
      obtain ⟨choice, hin, hblock⟩ := List.mem_flatMap.1 hclause
      rw [Clause.words_of_mem_block hblock] at hword
      -- every word of the choice is one of the alternatives of its term
      obtain ⟨i, hi, rfl⟩ := List.getElem_of_mem hword
      have hi' : i < query.terms.length := (hchoice choice hin).length_eq ▸ hi
      exact (h.terms _ (List.getElem_mem hi')).unbracketed _ ((hchoice choice hin).get hi hi')
  · rw [textQuery, Relaxation.ofName_of_notMem hname] at htext
    cases htext

/-! ## SQL texts -/

/-- A piece without a bracket in any parameter style. -/
def Piece.IsUnbracketed (piece : Piece) : Prop :=
  ∀ style : MarkStyle, Unbracketed (piece.text style)

namespace Piece

theorem isUnbracketed_fixed {text : String} (h : Unbracketed text) : (fixed text).IsUnbracketed :=
  fun _ => h

/-- A mark is a question mark, or a colon and a number. -/
theorem isUnbracketed_mark (number : Nat) : (mark number).IsUnbracketed := by
  intro style
  cases style with
  | qmark => exact (by decide : Unbracketed "?")
  | numeric => exact (by decide : Unbracketed ":").append (unbracketed_nat number)

/-- Pieces without a bracket are written without one. -/
theorem unbracketed_write {pieces : List Piece} (h : ∀ piece ∈ pieces, piece.IsUnbracketed)
    (style : MarkStyle) : Unbracketed (write style pieces) := by
  refine Unbracketed.join fun text htext => ?_
  obtain ⟨piece, hpiece, rfl⟩ := List.mem_map.1 htext
  exact h piece hpiece style

/-- Brackets that join conditions are round ones. -/
theorem isUnbracketed_bracketed {conditions : List (List Piece)}
    (h : ∀ condition ∈ conditions, ∀ piece ∈ condition, piece.IsUnbracketed) :
    ∀ piece ∈ bracketed conditions, piece.IsUnbracketed := by
  have hand : ∀ piece ∈ [fixed " AND "], piece.IsUnbracketed :=
    List.forall_mem_singleton.2 (isUnbracketed_fixed (by decide))
  have hconjunction : ∀ piece ∈ conjunction conditions, piece.IsUnbracketed := by
    intro piece hpiece
    obtain ⟨condition, hcondition, hmem⟩ := List.mem_flatten.1 hpiece
    exact forall_mem_intersperse hand h condition hcondition piece hmem
  have hround : ∀ piece ∈ fixed "(" :: conjunction conditions ++ [fixed ")"],
      piece.IsUnbracketed := by
    intro piece hpiece
    rcases List.mem_cons.1 hpiece with rfl | hpiece
    · exact isUnbracketed_fixed (by decide)
    · rcases List.mem_append.1 hpiece with hpiece | hpiece
      · exact hconjunction piece hpiece
      · rw [List.mem_singleton.1 hpiece]
        exact isUnbracketed_fixed (by decide)
  unfold bracketed
  split
  · exact h _ List.mem_cons_self
  · exact hround

end Piece

/-- The condition on a column adds no bracket to the column. -/
theorem Restriction.isUnbracketed_pieces {r : Restriction} (h : Unbracketed r.column)
    (first : Nat) : ∀ piece ∈ r.pieces first, piece.IsUnbracketed := by
  have hrelation : Unbracketed r.relation := by
    unfold relation
    split <;> decide
  have hopen : Unbracketed "(" := by decide
  have hmarks : ∀ piece ∈ (List.range' first r.values.length).map Piece.mark,
      piece.IsUnbracketed := by
    intro piece hpiece
    obtain ⟨number, -, rfl⟩ := List.mem_map.1 hpiece
    exact Piece.isUnbracketed_mark number
  have hcomma : (Piece.fixed ", ").IsUnbracketed := Piece.isUnbracketed_fixed (by decide)
  intro piece hpiece
  rcases List.mem_cons.1 hpiece with rfl | hpiece
  · exact Piece.isUnbracketed_fixed (((hopen.append h).append hrelation).append (by decide))
  · rcases List.mem_append.1 hpiece with hpiece | hpiece
    · exact forall_mem_intersperse hcomma hmarks piece hpiece
    · rw [List.mem_singleton.1 hpiece]
      exact Piece.isUnbracketed_fixed (by decide)

namespace Conditions

/-- The conditions have no bracket. -/
def IsUnbracketed (conditions : Conditions) : Prop :=
  ∀ clause ∈ conditions.clauses, ∀ piece ∈ clause, piece.IsUnbracketed

/-- So it is with one condition after the other. -/
theorem isUnbracketed_numberFrom {rs : List Restriction} (h : ∀ r ∈ rs, Unbracketed r.column)
    (first : Nat) :
    ∀ clause ∈ Restriction.numberFrom first rs, ∀ piece ∈ clause, piece.IsUnbracketed := by
  induction rs generalizing first with
  | nil => exact List.forall_mem_nil _
  | cons r rs ih =>
    obtain ⟨hr, hrest⟩ := List.forall_mem_cons.1 h
    exact List.forall_mem_cons.2 ⟨r.isUnbracketed_pieces hr first, ih hrest _⟩

/-- The conditions of a filter name the column that is registered for it. -/
theorem isUnbracketed_of_ofFilter {first : Nat} {name : String} {values : List Criterion}
    {conditions : Conditions} (h : ofFilter first name values = .ok conditions) :
    conditions.IsUnbracketed := by
  have hcolumns : ∀ spec ∈ registry, Unbracketed spec.column := by decide
  unfold ofFilter at h
  split at h
  · cases h
  · next spec hfind =>
    obtain rfl := Except.ok.inj h
    refine isUnbracketed_numberFrom (fun r hr => ?_) first
    have hcolumn : r.column = spec.column := by
      have hmem := List.mem_of_mem_filter hr
      simp only [List.mem_cons, List.not_mem_nil, or_false] at hmem
      rcases hmem with rfl | rfl <;> rfl
    rw [hcolumn]
    exact hcolumns spec (List.mem_of_find?_eq_some hfind)

/-- So it is with all filters of a search. -/
theorem isUnbracketed_of_mapM {first : Nat} {filters : Filters} {conditions : List Conditions}
    (h : (ofFiltersFrom first filters).mapM id = .ok conditions) :
    ∀ c ∈ conditions, c.IsUnbracketed := by
  induction filters generalizing first conditions with
  | nil =>
    obtain rfl := Except.ok.inj h
    exact List.forall_mem_nil _
  | cons entry rest ih =>
    obtain ⟨name, values⟩ := entry
    rw [ofFiltersFrom] at h
    cases hfilter : ofFilter first name values with
    | error failure =>
      rw [hfilter, List.mapM_cons] at h
      cases h
    | ok c =>
      rw [hfilter, List.mapM_cons] at h
      obtain ⟨_, hc, h⟩ := exists_of_bind_eq_ok h
      obtain rfl := Except.ok.inj hc
      obtain ⟨more, hmore, h⟩ := exists_of_bind_eq_ok h
      obtain rfl := Except.ok.inj h
      exact List.forall_mem_cons.2 ⟨isUnbracketed_of_ofFilter hfilter, ih hmore⟩

end Conditions

theorem Statement.unbracketed_columns : ∀ column ∈ columns, Unbracketed column := by
  simp only [columns, List.forall_mem_cons]
  refine ⟨?_, ?_, ?_, ?_, ?_, ?_, ?_, ?_, List.forall_mem_nil _⟩ <;> decide

theorem Statement.unbracketed_tables : Unbracketed tables := by
  unfold tables
  refine (((Unbracketed.append ?_ ?_).append ?_).append ?_).append ?_ <;> decide

/-- The SQL text has no bracket in any parameter style. -/
theorem Statement.unbracketed_sql {conditions : List Conditions}
    (h : ∀ c ∈ conditions, c.IsUnbracketed) (style : MarkStyle) (text : String) :
    Unbracketed (ofConditions style text conditions).sql := by
  have hmatch : ∀ piece ∈ matchCondition, piece.IsUnbracketed := by
    intro piece hpiece
    simp only [matchCondition, List.mem_cons, List.not_mem_nil, or_false] at hpiece
    rcases hpiece with rfl | rfl | rfl
    · exact Piece.isUnbracketed_fixed (by decide)
    · exact Piece.isUnbracketed_mark 1
    · exact Piece.isUnbracketed_fixed (by decide)
  have hwhole : ∀ condition ∈ conditions.filterMap Conditions.whole?,
      ∀ piece ∈ condition, piece.IsUnbracketed := by
    intro condition hcondition
    obtain ⟨c, hc, hsome⟩ := List.mem_filterMap.1 hcondition
    unfold Conditions.whole? at hsome
    split at hsome
    · cases hsome
    · obtain rfl := Option.some.inj hsome
      exact Piece.isUnbracketed_bracketed (h c hc)
  have hopening : Unbracketed "SELECT " := by decide
  have hcolumns : Unbracketed (String.intercalate ", " columns) :=
    Unbracketed.intercalate (by decide) unbracketed_columns
  have hblank : Unbracketed " " := by decide
  have hselect := (((hopening.append hcolumns).append hblank).append unbracketed_tables).append
    (by decide : Unbracketed " WHERE ")
  have horder : Unbracketed (" " ++ order) := by decide
  refine Piece.unbracketed_write (fun piece hpiece => ?_) style
  rcases List.mem_cons.1 hpiece with rfl | hpiece
  · exact Piece.isUnbracketed_fixed hselect
  · rcases List.mem_append.1 hpiece with hpiece | hpiece
    · exact Piece.isUnbracketed_bracketed (List.forall_mem_cons.2 ⟨hmatch, hwhole⟩) piece hpiece
    · rw [List.mem_singleton.1 hpiece]
      exact Piece.isUnbracketed_fixed horder

/-! ## Reports -/

/-- A statement has no bracket in its text and none in its parameters. -/
theorem Statement.unbracketed_of_compile {limit : Option Int} {relaxation raw paramstyle : String}
    {query : RankedQuery} {statement : Statement}
    (hparse : RankedQuery.parse limit relaxation raw = .ok query)
    (hcompile : query.compile paramstyle = .ok (some statement)) :
    Unbracketed statement.sql ∧ ∀ param ∈ statement.params, Unbracketed param := by
  obtain ⟨text, params, htext, hparams, hcapitals⟩ :=
    RankedQuery.isCapitals_of_compile hparse hcompile
  obtain ⟨tree, htree, -, htextQuery⟩ := RankedQuery.exists_tree hparse
  have hgood := NormalQuery.wellFormed_of_parse (NormalQuery.parse_of_tree htree)
  obtain ⟨textQuery, filters⟩ := query
  obtain rfl : textQuery = some text := htext
  constructor
  · obtain ⟨style, -, hcompile⟩ := exists_of_bind_eq_ok hcompile
    obtain ⟨conditions, hconditions, hcompile⟩ := exists_of_bind_eq_ok hcompile
    obtain rfl := Option.some.inj (Except.ok.inj hcompile)
    exact unbracketed_sql (Conditions.isUnbracketed_of_mapM hconditions) style text
  · rw [hparams]
    refine List.forall_mem_cons.2 ⟨hgood.unbracketed_textQuery htextQuery, ?_⟩
    intro param hparam hmem
    exact absurd ((hcapitals param hparam).2 _ hmem) (by decide)

namespace Report

/-- A report on a statement adds nothing but line feeds, blanks, colons and numbers. -/
theorem unbracketed_statement {s : Statement} (hsql : Unbracketed s.sql)
    (hparams : ∀ param ∈ s.params, Unbracketed param) : Unbracketed (statement (some s)) := by
  have hhead : ∀ line ∈ [s.sql, "", "params:"], Unbracketed line :=
    List.forall_mem_cons.2 ⟨hsql, by decide⟩
  refine Unbracketed.intercalate (by decide) (List.forall_mem_append.2 ⟨hhead, ?_⟩)
  intro line hline
  obtain ⟨index, hindex, rfl⟩ := List.mem_mapIdx.1 hline
  have hblanks : Unbracketed "  " := by decide
  have hcolon : Unbracketed ": " := by decide
  exact ((hblanks.append (unbracketed_nat _)).append hcolon).append
    (hparams _ (List.getElem_mem hindex))

/-- The words and the filters that a search string is read as have no bracket. -/
theorem unbracketed_listing {query : NormalQuery} (h : query.WellFormed) :
    Unbracketed (listing query) := by
  have hitem : Unbracketed "  - " := by decide
  have hterms : ∀ line ∈ query.terms.map fun alternatives =>
      "  - " ++ String.intercalate " | " alternatives, Unbracketed line := by
    refine List.forall_mem_map.2 fun alternatives hmem => ?_
    exact hitem.append (Unbracketed.intercalate (by decide) (h.terms _ hmem).unbracketed)
  have hnegations : ∀ line ∈ query.negations.map ("  - " ++ ·), Unbracketed line := by
    refine List.forall_mem_map.2 fun form hmem => ?_
    obtain ⟨value, hclean, rfl⟩ := h.negations form hmem
    exact hitem.append (unbracketed_exactForm hclean)
  have hfilters : ∀ line ∈ query.filters.map fun entry =>
      "  " ++ entry.1 ++ ": " ++ String.intercalate ", " (entry.2.map criterion),
      Unbracketed line := by
    refine List.forall_mem_map.2 fun entry hmem => ?_
    have hentry := h.filters.entries entry hmem
    have hname : Unbracketed entry.1 := unbracketed_of_isAlpha fun c hc =>
      (Search.isLetterName_of_mem_filterNames _ hentry.name_mem).isAlpha hc
    have hvalues : ∀ value ∈ entry.2.map criterion, Unbracketed value := by
      refine List.forall_mem_map.2 fun value hvalue => ?_
      have hletters := unbracketed_of_isAlpha (hentry.letters value hvalue).2
      cases value with
      | plain value => exact hletters
      | negated value => exact (by decide : Unbracketed "-").append hletters
    have hblanks : Unbracketed "  " := by decide
    have hcolon : Unbracketed ": " := by decide
    exact ((hblanks.append hname).append hcolon).append
      (Unbracketed.intercalate (by decide) hvalues)
  refine Unbracketed.intercalate (by decide) (List.forall_mem_append.2
    ⟨List.forall_mem_append.2 ⟨List.forall_mem_cons.2 ⟨by decide, hterms⟩, ?_⟩, ?_⟩)
  · exact List.forall_mem_cons.2 ⟨by decide, hnegations⟩
  · exact List.forall_mem_cons.2 ⟨by decide, hfilters⟩

/-- An explanation has no bracket in any of its lines. -/
theorem unbracketed_explanation {query : NormalQuery} (h : query.WellFormed)
    {relaxation : String} {textQuery : Option String}
    (htext : query.textQuery relaxation = .ok textQuery) :
    Unbracketed (explanation query textQuery) := by
  have hlast : Unbracketed (textQueryLine textQuery) := by
    cases textQuery with
    | none => decide
    | some text =>
      have hblanks : Unbracketed "  " := by decide
      show Unbracketed (if text = "" then "  (none)" else "  " ++ text)
      split
      · decide
      · exact hblanks.append (h.unbracketed_textQuery htext)
  rw [explanation_eq]
  exact ((unbracketed_listing h).append (by decide)).append hlast

end Report

/-- A search is prepared in two stages. -/
theorem SearchOptions.stages_of_prepare {options : SearchOptions} {raw : String}
    {plan : SearchPlan} (h : options.prepare raw = .ok plan) :
    RankedQuery.parse options.maxTerms options.relaxation raw = .ok plan.query ∧
      plan.query.compile options.paramstyle = .ok plan.statement := by
  obtain ⟨query, hparse, h⟩ := exists_of_bind_eq_ok h
  obtain ⟨statement, hstatement, h⟩ := exists_of_bind_eq_ok h
  obtain rfl := Except.ok.inj h
  refine ⟨hparse, ?_⟩
  cases hcompile : query.compile options.paramstyle with
  | error failure =>
    rw [hcompile] at hstatement
    cases hstatement
  | ok compiled =>
    rw [hcompile] at hstatement
    obtain rfl : compiled = statement := Except.ok.inj hstatement
    rfl

/-- A line is printed in full on a terminal, and elsewhere if the escape character is not in it. -/
theorem Text.forOutput_line {terminal : Bool} {s : String}
    (h : terminal = true ∨ '\x1b' ∉ s.toList) : forOutput terminal (s ++ "\n") = s ++ "\n" := by
  rcases h with rfl | hescape
  · rfl
  · have hfeed : '\x1b' ∉ "\n".toList := by decide
    refine forOutput_eq_self terminal fun hpair => ?_
    have hmem : '\x1b' ∈ (s ++ "\n").toList := hpair.subset List.mem_cons_self
    rw [String.toList_append, List.mem_append] at hmem
    exact hmem.elim hescape hfeed

/-- What a command has to say of an accepted search string is printed in full, to a terminal and
elsewhere. -/
theorem Command.forOutput_of_accepted {options : SearchOptions} {raw text : String}
    {command : Command} {entries : List LogEntry}
    (h : command.run options raw = (.ok ⟨text, true⟩, entries)) (terminal : Bool) :
    forOutput terminal (text ++ "\n") = text ++ "\n" := by
  have hfeed : Unbracketed "\n" := by decide
  cases command with
  | compile format =>
    cases hprepare : options.prepare raw with
    | error refusal => cases refusal <;> simp [run, runCompile, hprepare] at h
    | ok plan =>
      simp only [run, runCompile, hprepare, Prod.mk.injEq, Except.ok.injEq,
        Printout.mk.injEq] at h
      obtain ⟨⟨rfl, -⟩, -⟩ := h
      cases format with
      | json => exact forOutput_preparedJson terminal plan
      | text =>
        obtain ⟨hparse, hcompile⟩ := SearchOptions.stages_of_prepare hprepare
        have hreport : Unbracketed (Report.statement plan.statement) := by
          cases hstatement : plan.statement with
          | none => decide
          | some statement =>
            rw [hstatement] at hcompile
            obtain ⟨hsql, hparams⟩ := Statement.unbracketed_of_compile hparse hcompile
            exact Report.unbracketed_statement hsql hparams
        exact (hreport.append hfeed).forOutput_eq terminal
  | explain =>
    cases hparse : NormalQuery.parse options.maxTerms raw with
    | error rejection => simp [run, runExplain, hparse] at h
    | ok query =>
      cases htext : query.textQuery options.relaxation with
      | error failure => simp [run, runExplain, hparse, htext] at h
      | ok textQuery =>
        simp only [run, runExplain, hparse, htext, Prod.mk.injEq, Except.ok.injEq,
          Printout.mk.injEq] at h
        obtain ⟨⟨rfl, -⟩, -⟩ := h
        have hgood := NormalQuery.wellFormed_of_parse hparse
        exact ((Report.unbracketed_explanation hgood htext).append hfeed).forOutput_eq terminal

end StockQuery
