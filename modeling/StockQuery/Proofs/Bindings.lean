import StockQuery.Proofs.Marks

/-!
# Statements bind each value where it belongs

From the restrictions of one filter, over the filters of a statement, to the statement: every step
keeps the marks and the values lined up.
-/

namespace StockQuery

/-! ## Restrictions -/

namespace Restriction

open Piece

/-- The values of a restriction. -/
def bindings (r : Restriction) : List Binding :=
  r.values.map fun value => ⟨r.column ++ r.relation, value⟩

/-- There is one binding for each value. -/
theorem length_bindings (r : Restriction) : r.bindings.length = r.values.length := by
  rw [bindings, List.length_map]

theorem values_eq (r : Restriction) : r.values = r.bindings.map Binding.value := by
  rw [bindings, List.map_map]
  exact (List.map_id _).symm

/-- The marks of one list are apart from each other and from the closing brackets. -/
theorem legible_marks (numbers : List Nat) :
    Legible ((numbers.map Piece.mark).intersperse (.fixed ", ") ++ [.fixed "))"]) := by
  induction numbers with
  | nil => exact legible_fixed (by decide)
  | cons number numbers ih =>
    cases numbers with
    | nil => exact legible_mark_fixed number (by decide) rfl (by decide)
    | cons next numbers =>
      have hmark : Legible [.mark number, .fixed ", "] :=
        legible_mark_fixed number (by decide) rfl (by decide)
      exact hmark.append ih

/-- The numbers of the marks of a list are the ones it was written with, in order. -/
theorem filterMap_number_marks (numbers : List Nat) :
    ((numbers.map Piece.mark).intersperse (.fixed ", ")).filterMap number? = numbers := by
  induction numbers with
  | nil => rfl
  | cons number numbers ih =>
    cases numbers with
    | nil => rfl
    | cons next numbers => exact congrArg (number :: ·) ih

/-- All marks of a list stand in the same bracket. -/
theorem groups_marks (style : MarkStyle) (word outer lead : List Char) (stack : List (List Char))
    (numbers : List Nat) (rest : List SqlToken) :
    SqlToken.groups (word :: outer :: stack) lead
        (((numbers.map Piece.mark).intersperse (Piece.fixed ", ") ++ [Piece.fixed "))"]).flatMap
          (tokens style) ++ rest) =
      numbers.map (fun _ => word) ++ SqlToken.groups stack [] rest := by
  have hcomma : tokens style (.fixed ", ") = [.char ',', .char ' '] := rfl
  have hclose : tokens style (.fixed "))") = [.char ')', .char ')'] := rfl
  induction numbers generalizing lead with
  | nil =>
    rw [List.map_nil, List.intersperse_nil, List.nil_append, List.flatMap_singleton, hclose]
    rfl
  | cons number numbers ih =>
    cases numbers with
    | nil => rfl
    | cons next numbers =>
      have hnext := ih (lead ++ [','] ++ [' '])
      exact congrArg (word :: ·) hnext

theorem isBare_relation (r : Restriction) : IsBare r.relation := by
  unfold relation
  split <;> decide

/-- A restriction has a mark for each of its values. -/
theorem holds_pieces (first : Nat) {r : Restriction} (h : IsBare r.column) :
    Holds first (r.pieces first) r.bindings where
  legible := by
    have hhead : IsPlain ("(" ++ r.column ++ r.relation ++ "(") :=
      (((by decide : IsPlain "(").append h.1).append r.isBare_relation.1).append (by decide)
    exact (legible_fixed hhead).append (legible_marks _)
  numbers := by
    rw [pieces, List.filterMap_append, List.filterMap_cons_none rfl, filterMap_number_marks,
      length_bindings]
    exact List.append_nil _
  groups := by
    intro style stack lead rest
    obtain ⟨-, hopen, hclose⟩ := h.append r.isBare_relation
    have hhead : tokens style (.fixed ("(" ++ r.column ++ r.relation ++ "(")) =
        .char '(' :: ((r.column ++ r.relation).toList.map .char ++ [.char '(']) := by
      simp [tokens]
    have hwords : r.bindings.map (fun binding => binding.word.toList) =
        (List.range' first r.values.length).map fun _ => (r.column ++ r.relation).toList := by
      rw [bindings, List.map_map, List.map_const', List.length_range']
      show r.values.map (fun _ => (r.column ++ r.relation).toList) = _
      exact List.map_const' ..
    refine ⟨r.bindings.map (fun binding => binding.word.toList), [], ?_, ?_⟩
    · rw [pieces, List.cons_append, List.flatMap_cons, hhead, List.cons_append, List.cons_append,
        SqlToken.groups, if_pos rfl, List.append_assoc, List.append_assoc,
        SqlToken.groups_of_notMem hopen hclose, List.singleton_append, SqlToken.groups,
        if_pos rfl, List.nil_append, groups_marks, hwords]
    · rw [List.forall₂_map_right_iff, List.forall₂_same]
      exact fun _ _ => List.suffix_refl _

/-- Restrictions that are numbered in turn hold their bindings in turn, by induction on the list. -/
theorem holdInTurn_numberFrom (first : Nat) {rs : List Restriction}
    (h : ∀ r ∈ rs, IsBare r.column) :
    HoldInTurn first (numberFrom first rs) (rs.flatMap bindings) := by
  induction rs generalizing first with
  | nil => exact .nil first
  | cons r rs ih =>
    have hrest := ih (first + r.values.length) fun r hr => h r (List.mem_cons_of_mem _ hr)
    rw [numberFrom, List.flatMap_cons]
    refine .cons (holds_pieces first (h r List.mem_cons_self)) ?_
    rw [length_bindings]
    exact hrest

/-- A restriction without values has no marks. -/
theorem flatMap_bindings_filter (rs : List Restriction) :
    (rs.filter (!·.values.isEmpty)).flatMap bindings = rs.flatMap bindings := by
  induction rs with
  | nil => rfl
  | cons r rs ih =>
    rw [List.flatMap_cons, ← ih]
    by_cases hempty : r.values = []
    · rw [List.filter_cons_of_neg (by simp [hempty]), bindings, hempty]
      rfl
    · rw [List.filter_cons_of_pos (by simp [hempty]), List.flatMap_cons]

end Restriction

/-! ## Filters -/

theorem isBare_column : ∀ spec ∈ registry, IsBare spec.column := by
  simp only [registry, List.mem_singleton, forall_eq]
  decide

/-- Every registered name has its entry in the registry. -/
theorem exists_findFilter {name : String} (h : name ∈ filterNames) :
    ∃ spec ∈ registry, findFilter name = some spec := by
  cases hfind : findFilter name with
  | none =>
    obtain ⟨spec, hspec, rfl⟩ := List.mem_map.mp h
    rw [findFilter, List.find?_eq_none] at hfind
    exact absurd BEq.rfl (hfind spec hspec)
  | some spec => exact ⟨spec, List.mem_of_find?_eq_some hfind, rfl⟩

theorem findFilter_eq_none {name : String} (h : name ∉ filterNames) : findFilter name = none := by
  rw [findFilter, List.find?_eq_none]
  intro spec hspec heq
  exact h (List.mem_map.mpr ⟨spec, hspec, eq_of_beq heq⟩)

theorem Restriction.flatMap_bindings_ofValues {name : String} {spec : ColumnFilter}
    (h : findFilter name = some spec) (values : List Criterion) :
    (Restriction.ofValues spec values).flatMap Restriction.bindings =
      Binding.ofFilter name values := by
  simp only [Restriction.ofValues, Criterion.separate]
  rw [Restriction.flatMap_bindings_filter, Binding.ofFilter, h]
  simp [Restriction.bindings, Restriction.relation, Function.comp_def]

namespace Binding

/-- An unregistered filter binds nothing. -/
theorem ofFilter_eq_nil {name : String} (h : name ∉ filterNames) (values : List Criterion) :
    ofFilter name values = [] := by
  rw [ofFilter, findFilter_eq_none h]

theorem ofFilters_cons (name : String) (values : List Criterion) (rest : Filters) :
    ofFilters ((name, values) :: rest) = ofFilter name values ++ ofFilters rest := rfl

end Binding

namespace Conditions

open Piece

/-- No condition is written for an unregistered filter. -/
theorem ofFilter_eq_error (first : Nat) {name : String} (h : name ∉ filterNames)
    (values : List Criterion) :
    ofFilter first name values = .error (.unregisteredFilter name) := by
  rw [ofFilter, findFilter_eq_none h]

/-- The conditions of a registered filter hold its values. -/
theorem exists_ofFilter (first : Nat) {name : String} (h : name ∈ filterNames)
    (values : List Criterion) : ∃ conditions, ofFilter first name values = .ok conditions ∧
      HoldInTurn first conditions.clauses (Binding.ofFilter name values) ∧
      conditions.params = (Binding.ofFilter name values).map Binding.value := by
  obtain ⟨spec, hspec, hfind⟩ := exists_findFilter h
  refine ⟨ofRestrictions first (Restriction.ofValues spec values), ?_, ?_, ?_⟩
  · rw [ofFilter, hfind]
  · have hcolumn : ∀ r ∈ Restriction.ofValues spec values, r.column = spec.column := by
      intro r hr
      simp only [Restriction.ofValues, Criterion.separate] at hr
      obtain ⟨hr, -⟩ := List.mem_filter.mp hr
      simp only [List.mem_cons, List.not_mem_nil, or_false] at hr
      rcases hr with rfl | rfl <;> rfl
    rw [← Restriction.flatMap_bindings_ofValues hfind]
    apply Restriction.holdInTurn_numberFrom
    intro r hr
    rw [hcolumn r hr]
    exact isBare_column spec hspec
  · rw [← Restriction.flatMap_bindings_ofValues hfind, List.map_flatMap, ofRestrictions]
    exact congrArg (fun f => List.flatMap f _) (funext Restriction.values_eq)

/-- The numbers go on from filter to filter, over a filter that is not registered as well. -/
theorem ofFiltersFrom_cons (first : Nat) (name : String) (values : List Criterion)
    (rest : Filters) : ofFiltersFrom first ((name, values) :: rest) =
      ofFilter first name values ::
        ofFiltersFrom (first + (Binding.ofFilter name values).length) rest := by
  rw [ofFiltersFrom]
  by_cases hname : name ∈ filterNames
  · obtain ⟨conditions, hfilter, -, hparams⟩ := exists_ofFilter first hname values
    rw [hfilter]
    simp only [hparams, List.length_map]
  · rw [ofFilter_eq_error first hname, Binding.ofFilter_eq_nil hname]
    rfl

/-- The filters of the second part are numbered from where the first part ends. -/
theorem ofFiltersFrom_append (first : Nat) (before after : Filters) :
    ofFiltersFrom first (before ++ after) = ofFiltersFrom first before ++
      ofFiltersFrom (first + (Binding.ofFilters before).length) after := by
  induction before generalizing first with
  | nil => rfl
  | cons entry rest ih =>
    obtain ⟨name, values⟩ := entry
    rw [List.cons_append, ofFiltersFrom_cons, ofFiltersFrom_cons, ih, Binding.ofFilters_cons,
      List.length_append, Nat.add_assoc, List.cons_append]

theorem length_ofFiltersFrom (first : Nat) (filters : Filters) :
    (ofFiltersFrom first filters).length = filters.length := by
  induction filters generalizing first with
  | nil => rfl
  | cons entry rest ih =>
    obtain ⟨name, values⟩ := entry
    rw [ofFiltersFrom_cons, List.length_cons, List.length_cons, ih]

/-- A filter adds at most one condition to a statement, and this one holds its values. -/
theorem whole?_of_holdInTurn {first : Nat} {conditions : Conditions} {bs : List Binding}
    (h : HoldInTurn first conditions.clauses bs) :
    (conditions.whole? = none ∧ bs = []) ∨
      ∃ ps, conditions.whole? = some ps ∧ Holds first ps bs := by
  unfold whole?
  cases hclauses : conditions.clauses with
  | nil =>
    rw [hclauses] at h
    cases h
    exact .inl ⟨rfl, rfl⟩
  | cons clause clauses =>
    rw [hclauses] at h
    exact .inr ⟨_, rfl, h.bracketed⟩

/-- The conditions of registered filters hold the values of one filter after the other. -/
theorem exists_ofFiltersFrom (first : Nat) {filters : Filters}
    (h : ∀ entry ∈ filters, entry.1 ∈ filterNames) :
    ∃ conditions, (ofFiltersFrom first filters).mapM id = .ok conditions ∧
      HoldInTurn first (conditions.filterMap whole?) (Binding.ofFilters filters) ∧
      conditions.flatMap Conditions.params = (Binding.ofFilters filters).map Binding.value := by
  induction filters generalizing first with
  | nil => exact ⟨[], rfl, .nil first, rfl⟩
  | cons entry rest ih =>
    obtain ⟨name, values⟩ := entry
    obtain ⟨hname, hrest⟩ := List.forall_mem_cons.mp h
    obtain ⟨conditions, hfilter, hturn, hparams⟩ := exists_ofFilter first hname values
    obtain ⟨more, hmore, hmoreTurn, hmoreParams⟩ :=
      ih (first + (Binding.ofFilter name values).length) hrest
    rw [ofFiltersFrom_cons, hfilter, Binding.ofFilters_cons]
    refine ⟨conditions :: more, ?_, ?_, ?_⟩
    · rw [List.mapM_cons, hmore]
      rfl
    · obtain ⟨hnone, hnil⟩ | ⟨ps, hsome, hholds⟩ := whole?_of_holdInTurn hturn
      · rw [hnil] at hmoreTurn
        rw [List.filterMap_cons_none hnone, hnil]
        exact hmoreTurn
      · rw [List.filterMap_cons_some hsome]
        exact .cons hholds hmoreTurn
    · rw [List.flatMap_cons, hparams, hmoreParams, List.map_append]

/-- The clauses of all filters that are registered. -/
def clausesOf (results : List (Except Failure Conditions)) : List (List Piece) :=
  results.flatMap fun result =>
    match result with
    | .error _ => []
    | .ok conditions => conditions.clauses

/-- The texts of these clauses, one after the other. -/
def textOf (style : MarkStyle) (results : List (Except Failure Conditions)) : List Char :=
  (clausesOf results).flatMap fun clause => (Piece.write style clause).toList

/-- The conditions of all the filters hold the bindings of all the filters. -/
theorem holdInTurn_clausesOf (first : Nat) (filters : Filters) :
    HoldInTurn first (clausesOf (ofFiltersFrom first filters)) (Binding.ofFilters filters) := by
  induction filters generalizing first with
  | nil => exact .nil first
  | cons entry rest ih =>
    obtain ⟨name, values⟩ := entry
    have hrest := ih (first + (Binding.ofFilter name values).length)
    rw [ofFiltersFrom_cons, Binding.ofFilters_cons, clausesOf, List.flatMap_cons]
    by_cases hname : name ∈ filterNames
    · obtain ⟨conditions, hfilter, hturn, -⟩ := exists_ofFilter first hname values
      rw [hfilter]
      exact hturn.append hrest
    · rw [Binding.ofFilter_eq_nil hname] at hrest ⊢
      rw [ofFilter_eq_error first hname]
      exact hrest

/-- Clauses that hold the values line up with them. -/
theorem linesUp_textOf {first : Nat} {results : List (Except Failure Conditions)}
    {bs : List Binding} (h : HoldInTurn first (clausesOf results) bs) :
    LinesUp first (textOf .numeric results) (textOf .qmark results) bs := by
  have htext : ∀ style, textOf style results =
      (Piece.write style ((clausesOf results).flatMap ([] ++ ·))).toList := by
    intro style
    rw [textOf, toList_write, List.flatMap_assoc]
    exact congrArg (fun f => List.flatMap f _) (funext (toList_write style))
  rw [htext, htext]
  exact (h.separated Holds.nil).linesUp

end Conditions

/-! ## Statements -/

namespace Statement

open Piece

theorem isInert_columns : ∀ column ∈ columns, IsInert column := by
  simp only [columns, List.forall_mem_cons]
  refine ⟨.ofList ?_, .ofList ?_, .ofList ?_, .ofList ?_, .ofList ?_, .ofList ?_, .ofList ?_,
    .ofList ?_, List.forall_mem_nil _⟩ <;> decide

theorem isInert_tables : IsInert tables := by
  unfold tables
  refine ((((IsInert.ofList ?_).append (.ofList ?_)).append (.ofList ?_)).append
    (.ofList ?_)).append (.ofList ?_) <;> decide

/-- The condition on the text has the first mark, which is the text query. -/
theorem holds_matchCondition (text : String) :
    Holds 1 matchCondition [⟨"contains", text⟩] where
  legible := by
    have hopen : Legible [.fixed "contains(ip.text_id$, "] := legible_fixed (by decide)
    have hmark : Legible [.mark 1, .fixed ", 1) > 0"] :=
      legible_mark_fixed 1 (by decide) rfl (by decide)
    exact hopen.append hmark
  numbers := rfl
  groups := by
    intro style stack lead rest
    have hopen : (Piece.fixed "contains(ip.text_id$, ").tokens style =
        "contains".toList.map .char ++ (.char '(' :: "ip.text_id$, ".toList.map .char) := rfl
    have hclose : SqlToken.depthAfter 1 ", 1) > 0".toList = some 0 := by decide
    obtain ⟨lead', hlead⟩ := SqlToken.groups_of_depthAfter [lead ++ "contains".toList] hclose stack
      ([] ++ "ip.text_id$, ".toList) rest
    refine ⟨[lead ++ "contains".toList], lead', ?_, .cons (List.suffix_append ..) .nil⟩
    rw [List.singleton_append, ← hlead, matchCondition, List.flatMap_cons, hopen, List.append_assoc,
      List.append_assoc, SqlToken.groups_of_notMem (by decide) (by decide), List.cons_append,
      SqlToken.groups, if_pos rfl, SqlToken.groups_of_notMem (by decide) (by decide)]
    rfl

/-- The whole statement has the mark of the text and after it those of the conditions. -/
theorem holds_pieces {text : String} {conditions : List Conditions} {bs : List Binding}
    (h : HoldInTurn 2 (conditions.filterMap Conditions.whole?) bs) :
    Holds 1 (pieces conditions) (⟨"contains", text⟩ :: bs) := by
  have hcolumns : IsInert (String.intercalate ", " columns) :=
    .intercalate (.ofList (by decide)) isInert_columns
  have hhead : Holds 1 [.fixed ("SELECT " ++ String.intercalate ", " columns ++ " " ++ tables ++
      " WHERE ")] [] :=
    Holds.fixed 1 (((((IsInert.ofList (by decide)).append hcolumns).append
      (.ofList (by decide))).append isInert_tables).append (.ofList (by decide)))
  have hcondition : Holds 1 (condition conditions) (⟨"contains", text⟩ :: bs) :=
    HoldInTurn.bracketed (.cons (holds_matchCondition text) h)
  have horder : Holds (1 + (⟨"contains", text⟩ :: bs : List Binding).length)
      [.fixed (" " ++ order)] [] :=
    Holds.fixed _ ((IsInert.ofList (by decide)).append (.ofList (by decide)))
  have hall := (hhead.append hcondition).append horder
  rw [List.append_nil] at hall
  exact hall

end Statement

theorem MarkStyle.ofName_name (style : MarkStyle) : ofName style.name = .ok style := by
  cases style <;> rfl

theorem MarkStyle.ofName_of_notMem {name : String} (h : name ∉ ["qmark", "numeric"]) :
    ofName name = .error (.unsupportedParamstyle name) := by
  have hnone : ofName? name = none := by
    rw [ofName?, List.find?_eq_none]
    intro style _ heq
    rw [← eq_of_beq heq] at h
    cases style <;> exact h (by decide)
  rw [ofName, hnone]

theorem MarkStyle.exists_name_eq {name : String} (h : name ∈ ["qmark", "numeric"]) :
    ∃ style : MarkStyle, name = style.name := by
  rw [List.mem_cons, List.mem_singleton] at h
  rcases h with h | h
  · exact ⟨qmark, h⟩
  · exact ⟨numeric, h⟩

/-- What is compiled for a text, in two stages: the style of the marks and then the conditions. -/
theorem RankedQuery.compile_eq (paramstyle text : String) (filters : Filters) :
    compile paramstyle ⟨some text, filters⟩ = (MarkStyle.ofName paramstyle).bind fun style =>
      ((Conditions.ofFiltersFrom 2 filters).mapM id).map fun conditions =>
        some (Statement.ofConditions style text conditions) := by
  simp only [compile]
  cases MarkStyle.ofName paramstyle with
  | error failure => rfl
  | ok style =>
    cases (Conditions.ofFiltersFrom 2 filters).mapM id with
    | error failure => rfl
    | ok conditions => rfl

/-- A filter without values leaves no trace in a statement. -/
theorem RankedQuery.compile_without_values (paramstyle text : String) (before : Filters)
    {name : String} (h : name ∈ filterNames) (after : Filters) :
    compile paramstyle ⟨some text, before ++ (name, []) :: after⟩ =
      compile paramstyle ⟨some text, before ++ after⟩ := by
  obtain ⟨spec, -, hfind⟩ := exists_findFilter h
  have hfilter : ∀ first, Conditions.ofFilter first name [] = .ok ⟨[], []⟩ := by
    intro first
    rw [Conditions.ofFilter, hfind]
    rfl
  have hnone : Binding.ofFilter name [] = [] := by
    rw [Binding.ofFilter, hfind]
    rfl
  -- The conditions of the filter are empty, and a statement skips empty conditions.
  have hskip : ∀ style conditions more,
      Statement.ofConditions style text (conditions ++ ⟨[], []⟩ :: more) =
        Statement.ofConditions style text (conditions ++ more) := by
    intro style conditions more
    have hwhole : Conditions.whole? ⟨[], []⟩ = none := rfl
    simp [Statement.ofConditions, Statement.pieces, Statement.condition, hwhole]
  rw [compile_eq, compile_eq, Conditions.ofFiltersFrom_append, Conditions.ofFiltersFrom_append,
    Conditions.ofFiltersFrom_cons, hfilter, hnone, List.length_nil, Nat.add_zero, List.mapM_append,
    List.mapM_append, List.mapM_cons]
  cases MarkStyle.ofName paramstyle with
  | error failure => rfl
  | ok style =>
    cases (Conditions.ofFiltersFrom 2 before).mapM id with
    | error failure => rfl
    | ok conditions =>
      cases (Conditions.ofFiltersFrom (2 + (Binding.ofFilters before).length) after).mapM id with
      | error failure => rfl
      | ok more => exact congrArg (fun s => Except.ok (some s)) (hskip style conditions more)

/-- Marks and parameters line up. The statement of a query over registered filters has, in both
styles, the same parameters: the text query, then the plain and then the negated values of each
filter. Its marks are numbered from one, as many as there are parameters, and each stands in the
bracket that its parameter is for; the styles differ in the marks only. A filter without values
leaves no trace. Where conditions are asked for one filter after the other, the same holds for all
of them together, and for each with the numbers that the filters before it have left. -/
theorem marks_line_up :
    (∀ (text : String) (filters : Filters), (∀ entry ∈ filters, entry.1 ∈ filterNames) →
      ∃ numeric qmark : Statement,
        RankedQuery.compile "numeric" ⟨some text, filters⟩ = .ok (some numeric) ∧
        RankedQuery.compile "qmark" ⟨some text, filters⟩ = .ok (some qmark) ∧
        numeric.params = (Binding.ofQuery text filters).map Binding.value ∧
        qmark.params = numeric.params ∧
        LinesUp 1 numeric.sql.toList qmark.sql.toList (Binding.ofQuery text filters)) ∧
    (∀ (paramstyle text name : String) (before after : Filters), name ∈ filterNames →
      RankedQuery.compile paramstyle ⟨some text, before ++ (name, []) :: after⟩ =
        RankedQuery.compile paramstyle ⟨some text, before ++ after⟩) ∧
    (∀ calls : Filters,
      (Conditions.ofFiltersFrom 1 calls).length = calls.length ∧
      LinesUp 1 (Conditions.textOf .numeric (Conditions.ofFiltersFrom 1 calls))
        (Conditions.textOf .qmark (Conditions.ofFiltersFrom 1 calls)) (Binding.ofFilters calls) ∧
      ∀ before name values after, calls = before ++ (name, values) :: after →
        (name ∉ filterNames → (Conditions.ofFiltersFrom 1 calls)[before.length]? =
          some (.error (.unregisteredFilter name))) ∧
        (name ∈ filterNames → ∃ conditions,
          (Conditions.ofFiltersFrom 1 calls)[before.length]? = some (.ok conditions) ∧
          conditions.params = (Binding.ofFilter name values).map Binding.value ∧
          LinesUp (1 + (Binding.ofFilters before).length)
            (Conditions.textOf .numeric [.ok conditions])
            (Conditions.textOf .qmark [.ok conditions]) (Binding.ofFilter name values))) := by
  refine ⟨?_, ?_, ?_⟩
  · intro text filters h
    obtain ⟨conditions, hmapM, hturn, hparams⟩ := Conditions.exists_ofFiltersFrom 2 h
    have hcompile : ∀ style : MarkStyle, RankedQuery.compile style.name ⟨some text, filters⟩ =
        .ok (some (Statement.ofConditions style text conditions)) := by
      intro style
      rw [RankedQuery.compile_eq, MarkStyle.ofName_name, hmapM]
      rfl
    refine ⟨_, _, hcompile .numeric, hcompile .qmark, ?_, rfl, ?_⟩
    · exact congrArg (text :: ·) hparams
    · exact (Statement.holds_pieces hturn).linesUp
  · intro paramstyle text name before after h
    exact RankedQuery.compile_without_values paramstyle text before h after
  · intro calls
    refine ⟨Conditions.length_ofFiltersFrom 1 calls,
      Conditions.linesUp_textOf (Conditions.holdInTurn_clausesOf 1 calls), ?_⟩
    rintro before name values after rfl
    have hresult :
        (Conditions.ofFiltersFrom 1 (before ++ (name, values) :: after))[before.length]? =
          some (Conditions.ofFilter (1 + (Binding.ofFilters before).length) name values) := by
      rw [Conditions.ofFiltersFrom_append, Conditions.ofFiltersFrom_cons,
        List.getElem?_append_right (Conditions.length_ofFiltersFrom 1 before).le,
        Conditions.length_ofFiltersFrom, Nat.sub_self]
      rfl
    rw [hresult]
    constructor
    · intro hname
      rw [Conditions.ofFilter_eq_error _ hname]
    · intro hname
      obtain ⟨conditions, hfilter, hturn, hparams⟩ :=
        Conditions.exists_ofFilter (1 + (Binding.ofFilters before).length) hname values
      refine ⟨conditions, by rw [hfilter], hparams, Conditions.linesUp_textOf ?_⟩
      rw [Conditions.clausesOf, List.flatMap_singleton]
      exact hturn

theorem marks_line_up_regrouped :
    ∃ numeric qmark : Statement,
      RankedQuery.compile "numeric" ⟨some "bias", [("planner",
        [.negated "a", .plain "b", .negated "c", .plain "d"])]⟩ = .ok (some numeric) ∧
      RankedQuery.compile "qmark" ⟨some "bias", [("planner",
        [.negated "a", .plain "b", .negated "c", .plain "d"])]⟩ = .ok (some qmark) ∧
      numeric.params = ["bias", "B", "D", "A", "C"] ∧ qmark.params = numeric.params ∧
      sqlMarks numeric.sql.toList = [":1", ":2", ":3", ":4", ":5"].map String.toList ∧
      List.Forall₂ Binding.Fits
        [⟨"contains", "bias"⟩, ⟨"ip.planner_buyer IN ", "B"⟩, ⟨"ip.planner_buyer IN ", "D"⟩,
          ⟨"ip.planner_buyer NOT IN ", "A"⟩, ⟨"ip.planner_buyer NOT IN ", "C"⟩]
        (sqlGroups numeric.sql.toList) ∧
      RankedQuery.compile "qmark" ⟨some "bias", [("planner", [])]⟩ =
        RankedQuery.compile "qmark" ⟨some "bias", []⟩ := by
  obtain ⟨numeric, qmark, hnumeric, hqmark, hparams, hsame, hlines⟩ := marks_line_up.1 "bias"
    [("planner", [.negated "a", .plain "b", .negated "c", .plain "d"])] (by decide)
  have hbindings : Binding.ofQuery "bias"
      [("planner", [.negated "a", .plain "b", .negated "c", .plain "d"])] =
      [⟨"contains", "bias"⟩, ⟨"ip.planner_buyer IN ", "B"⟩, ⟨"ip.planner_buyer IN ", "D"⟩,
        ⟨"ip.planner_buyer NOT IN ", "A"⟩, ⟨"ip.planner_buyer NOT IN ", "C"⟩] := by
    decide +kernel
  rw [hbindings] at hparams hlines
  exact ⟨numeric, qmark, hnumeric, hqmark, hparams, hsame, hlines.numbered, hlines.numeric_groups,
    marks_line_up.2.1 "qmark" "bias" "planner" [] [] (by decide)⟩

end StockQuery
