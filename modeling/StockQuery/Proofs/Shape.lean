import StockQuery.Proofs.Bindings
import StockQuery.Proofs.Spelling
import StockQuery.TextQuery

/-!
# SQL text and the shape of a search

The SQL text of a statement is the same for all searches of one shape: the filters that are named,
and for each of them how many plain and how many negated values it has. Two searches of the same
shape are compared step by step. A restriction is written from its outline, its column, its kind and
the number of its values, so the restrictions, the conditions of a filter and the conditions of all
filters are written alike, and the numbers of the marks go on alike from one to the next.
-/

namespace StockQuery

/-- The filters with the number of their plain and of their negated values. -/
def Filters.shape (filters : Filters) : List (String × Nat × Nat) :=
  filters.map fun entry => (entry.1, (entry.2.filterMap Criterion.plain?).length,
    (entry.2.filterMap Criterion.negated?).length)

/-- A step of a computation that succeeds has succeeded. -/
theorem exists_of_bind_eq_ok {ε β γ : Type} {x : Except ε β} {f : β → Except ε γ} {c : γ}
    (h : x >>= f = .ok c) : ∃ b, x = .ok b ∧ f b = .ok c := by
  cases x with
  | error e => cases h
  | ok b => exact ⟨b, rfl, h⟩

/-- Two results that a function maps to the same one are the same failure, or two values with the
same image. -/
theorem except_cases_of_map_eq {ε α β : Type} {f : α → β} {x y : Except ε α}
    (h : x.map f = y.map f) :
    (∃ e, x = .error e ∧ y = .error e) ∨ ∃ a b, x = .ok a ∧ y = .ok b ∧ f a = f b := by
  cases x with
  | error e =>
    cases y with
    | error e' =>
      obtain rfl : e = e' := Except.error.inj h
      exact .inl ⟨e, rfl, rfl⟩
    | ok b => cases h
  | ok a =>
    cases y with
    | error e' => cases h
    | ok b => exact .inr ⟨a, b, rfl, rfl, Except.ok.inj h⟩

/-! ## Restrictions -/

namespace Restriction

/-- What the text of a restriction is written from. -/
def outline (r : Restriction) : String × Bool × Nat := (r.column, r.excluded, r.values.length)

theorem pieces_congr {r r' : Restriction} (h : r.outline = r'.outline) (first : Nat) :
    r.pieces first = r'.pieces first := by
  obtain ⟨column, excluded, values⟩ := r
  obtain ⟨column', excluded', values'⟩ := r'
  simp only [outline, Prod.mk.injEq] at h
  obtain ⟨rfl, rfl, hlength⟩ := h
  simp only [pieces, relation, hlength]

theorem numberFrom_congr {rs rs' : List Restriction} (h : rs.map outline = rs'.map outline)
    (first : Nat) : numberFrom first rs = numberFrom first rs' := by
  induction rs generalizing rs' first with
  | nil => rw [List.map_eq_nil_iff.1 h.symm]
  | cons r rs ih =>
    cases rs' with
    | nil => cases h
    | cons r' rs' =>
      obtain ⟨hhead, htail⟩ := List.cons.inj h
      have hlength : r.values.length = r'.values.length := congrArg (·.2.2) hhead
      rw [numberFrom, numberFrom, pieces_congr hhead, hlength, ih htail]

theorem length_values_congr {rs rs' : List Restriction} (h : rs.map outline = rs'.map outline) :
    (rs.flatMap values).length = (rs'.flatMap values).length := by
  have hlengths := congrArg (List.map (·.2.2)) h
  rw [List.map_map, List.map_map] at hlengths
  rw [List.length_flatMap, List.length_flatMap]
  exact congrArg List.sum hlengths

/-- The outline of the restrictions of a filter, from the numbers of its values. -/
theorem outline_ofValues (spec : ColumnFilter) (values : List Criterion) :
    (ofValues spec values).map outline =
      [(spec.column, false, (values.filterMap Criterion.plain?).length),
        (spec.column, true, (values.filterMap Criterion.negated?).length)].filter (·.2.2 != 0) := by
  have hempty : (fun r : Restriction => !r.values.isEmpty) = (·.2.2 != 0) ∘ outline := by
    funext r
    cases hr : r.values <;> simp [outline, hr]
  simp only [ofValues, Criterion.separate]
  rw [hempty, ← List.filter_map]
  simp [outline]

end Restriction

/-! ## Conditions -/

namespace Conditions

/-- The text of conditions, and the number of values that they use up. -/
def outline (conditions : Conditions) : List (List Piece) × Nat :=
  (conditions.clauses, conditions.params.length)

theorem ofFilter_congr {values values' : List Criterion}
    (hplain : (values.filterMap Criterion.plain?).length =
      (values'.filterMap Criterion.plain?).length)
    (hnegated : (values.filterMap Criterion.negated?).length =
      (values'.filterMap Criterion.negated?).length) (first : Nat) (name : String) :
    (ofFilter first name values).map outline = (ofFilter first name values').map outline := by
  unfold ofFilter
  cases findFilter name with
  | none => rfl
  | some spec =>
    have houtline : (Restriction.ofValues spec values).map Restriction.outline =
        (Restriction.ofValues spec values').map Restriction.outline := by
      rw [Restriction.outline_ofValues, Restriction.outline_ofValues, hplain, hnegated]
    have hclauses := Restriction.numberFrom_congr houtline first
    have hparams := Restriction.length_values_congr houtline
    show Except.ok (outline _) = Except.ok (outline _)
    rw [outline, outline, ofRestrictions, ofRestrictions, hclauses, hparams]

/-- Filters of the same shape are written alike one after the other. -/
theorem ofFiltersFrom_congr {filters filters' : Filters} (h : filters.shape = filters'.shape)
    (first : Nat) : (ofFiltersFrom first filters).map (Except.map outline) =
      (ofFiltersFrom first filters').map (Except.map outline) := by
  induction filters generalizing filters' first with
  | nil =>
    obtain rfl : filters' = [] := List.map_eq_nil_iff.1 h.symm
    rfl
  | cons entry rest ih =>
    cases filters' with
    | nil => cases h
    | cons entry' rest' =>
      obtain ⟨name, values⟩ := entry
      obtain ⟨name', values'⟩ := entry'
      obtain ⟨hhead, htail⟩ := List.cons.inj h
      simp only [Prod.mk.injEq] at hhead
      obtain ⟨rfl, hplain, hnegated⟩ := hhead
      have hfilter := ofFilter_congr hplain hnegated first name
      rw [ofFiltersFrom, ofFiltersFrom]
      rcases except_cases_of_map_eq hfilter with ⟨failure, hresult, hresult'⟩ |
        ⟨conditions, conditions', hresult, hresult', houtline⟩
      · rw [hresult, hresult', List.map_cons, List.map_cons, ih htail]
      · have hlength : conditions.params.length = conditions'.params.length :=
          congrArg Prod.snd houtline
        rw [hresult, hresult']
        simp only [List.map_cons, Except.map, houtline, hlength]
        rw [ih htail]

/-- Going through the results one by one, the first failure or the outlines come out. -/
theorem mapM_outline (results : List (Except Failure Conditions)) :
    (results.mapM id).map (List.map outline) = (results.map (Except.map outline)).mapM id := by
  induction results with
  | nil => rfl
  | cons result results ih =>
    rw [List.map_cons, List.mapM_cons, List.mapM_cons, ← ih]
    cases result with
    | error failure => rfl
    | ok conditions => cases results.mapM id <;> rfl

end Conditions

/-! ## Statements -/

namespace Statement

theorem pieces_congr {conditions conditions' : List Conditions}
    (h : conditions.map Conditions.outline = conditions'.map Conditions.outline) :
    pieces conditions = pieces conditions' := by
  have hclauses : conditions.map Conditions.clauses = conditions'.map Conditions.clauses := by
    have hfst := congrArg (List.map Prod.fst) h
    rw [List.map_map, List.map_map] at hfst
    exact hfst
  have hwhole : ∀ conditions : List Conditions, conditions.filterMap Conditions.whole? =
      (conditions.map Conditions.clauses).filterMap fun clauses =>
        if clauses.isEmpty then none else some (Piece.bracketed clauses) := by
    intro conditions
    rw [List.filterMap_map]
    rfl
  rw [pieces, pieces, condition, condition, hwhole, hwhole, hclauses]

end Statement

/-- Under any parameter style, also one that does not exist, the SQL text or the failure is the same
for filters of the same shape. -/
theorem RankedQuery.compile_congr (paramstyle text text' : String) {filters filters' : Filters}
    (h : filters.shape = filters'.shape) :
    (compile paramstyle ⟨some text, filters⟩).map (Option.map Statement.sql) =
      (compile paramstyle ⟨some text', filters'⟩).map (Option.map Statement.sql) := by
  have hmapM : ((Conditions.ofFiltersFrom 2 filters).mapM id).map (List.map Conditions.outline) =
      ((Conditions.ofFiltersFrom 2 filters').mapM id).map (List.map Conditions.outline) := by
    rw [Conditions.mapM_outline, Conditions.mapM_outline, Conditions.ofFiltersFrom_congr h]
  rw [compile_eq, compile_eq]
  cases MarkStyle.ofName paramstyle with
  | error failure => rfl
  | ok style =>
    rcases except_cases_of_map_eq hmapM with ⟨failure, hresult, hresult'⟩ |
      ⟨conditions, conditions', hresult, hresult', houtline⟩
    · rw [hresult, hresult']
      rfl
    · have hpieces := Statement.pieces_congr houtline
      rw [hresult, hresult']
      exact congrArg (fun pieces => Except.ok (some (Piece.write style pieces))) hpieces

theorem RankedQuery.exists_compile (style : MarkStyle) (text : String) {filters : Filters}
    (h : ∀ entry ∈ filters, entry.1 ∈ filterNames) :
    ∃ conditions, compile style.name ⟨some text, filters⟩ =
      .ok (some (Statement.ofConditions style text conditions)) := by
  obtain ⟨conditions, hconditions, -⟩ := Conditions.exists_ofFiltersFrom 2 h
  rw [compile_eq, MarkStyle.ofName_name, hconditions]
  exact ⟨conditions, rfl⟩

/-- For registered filters of the same shape there are statements, and they have the same SQL
text. -/
theorem RankedQuery.exists_compile_congr (style : MarkStyle) (text text' : String)
    {filters filters' : Filters} (hshape : filters.shape = filters'.shape)
    (hnames : ∀ entry ∈ filters, entry.1 ∈ filterNames) :
    ∃ statement statement' : Statement,
      compile style.name ⟨some text, filters⟩ = .ok (some statement) ∧
      compile style.name ⟨some text', filters'⟩ = .ok (some statement') ∧
      statement.sql = statement'.sql := by
  obtain ⟨conditions, hstatement⟩ := exists_compile style text hnames
  have hsame := compile_congr style.name text text' hshape
  rw [hstatement] at hsame
  rcases except_cases_of_map_eq hsame with ⟨failure, hok, -⟩ | ⟨_, result, hok, hresult, hsql⟩
  · cases hok
  · obtain rfl := Except.ok.inj hok
    cases result with
    | none => cases hsql
    | some statement' => exact ⟨_, statement', hstatement, hresult, Option.some.inj hsql⟩

/-! ## The filters of a search string -/

theorem mem_keys_add {filters : Filters} {item : FilterItem} {name : String}
    (h : name ∈ Entries.keys (filters.add item)) :
    name ∈ Entries.keys filters ∨ name = item.name := by
  rw [Filters.add, Entries.keys_amend] at h
  split at h
  · exact .inl h
  · rcases List.mem_append.1 h with h | h
    · exact .inl h
    · exact .inr (List.mem_singleton.1 h)

theorem mem_keys_foldl_add {items : List FilterItem} {filters : Filters} {name : String}
    (h : name ∈ Entries.keys (items.foldl Filters.add filters)) :
    name ∈ Entries.keys filters ∨ ∃ item ∈ items, name = item.name := by
  induction items generalizing filters with
  | nil => exact .inl h
  | cons item items ih =>
    rcases ih h with h | ⟨item', hitem', rfl⟩
    · rcases mem_keys_add h with h | rfl
      · exact .inl h
      · exact .inr ⟨item, List.mem_cons_self, rfl⟩
    · exact .inr ⟨item', List.mem_cons_of_mem _ hitem', rfl⟩

/-- A search string is read by way of its tree. -/
theorem RankedQuery.exists_tree {limit : Option Int} {relaxation raw : String}
    {query : RankedQuery} (h : parse limit relaxation raw = .ok query) :
    ∃ tree, Search.parse filterNames limit raw = .ok tree ∧
      query.filters = (NormalQuery.ofTree tree).filters ∧
      (NormalQuery.ofTree tree).textQuery relaxation = .ok query.textQuery := by
  rw [parse, NormalQuery.parse] at h
  cases htree : Search.parse filterNames limit raw with
  | error rejection =>
    rw [htree] at h
    cases h
  | ok tree =>
    rw [htree] at h
    replace h : ((NormalQuery.ofTree tree).textQuery relaxation).mapError Refusal.failed >>=
      (fun text => pure ⟨text, (NormalQuery.ofTree tree).filters⟩) = .ok query := h
    cases htext : (NormalQuery.ofTree tree).textQuery relaxation with
    | error failure =>
      rw [htext] at h
      cases h
    | ok text =>
      rw [htext] at h
      obtain rfl := Except.ok.inj h
      exact ⟨tree, rfl, rfl, htext⟩

/-- A search string asks for registered filters only. -/
theorem RankedQuery.mem_filterNames_of_parse {limit : Option Int} {relaxation raw : String}
    {query : RankedQuery} (h : parse limit relaxation raw = .ok query) :
    ∀ entry ∈ query.filters, entry.1 ∈ filterNames := by
  obtain ⟨tree, htree, hfilters, -⟩ := exists_tree h
  intro entry hentry
  have hkey : entry.1 ∈ Entries.keys query.filters := List.mem_map_of_mem hentry
  rw [hfilters] at hkey
  rcases mem_keys_foldl_add hkey with hnone | ⟨item, hitem, hname⟩
  · cases hnone
  · rw [hname]
    obtain ⟨node, hnode, hfilter⟩ := List.mem_filterMap.1 hitem
    cases node with
    | term t => cases hfilter
    | filter item' =>
      obtain rfl : item' = item := Option.some.inj hfilter
      have hitem := Search.wellFormed_of_parse Search.isLetterName_of_mem_filterNames htree _ hnode
      exact FilterItem.WellFormed.name_mem hitem

/-- Nothing that a user typed stands in the SQL text. Two queries whose filters have the same names
in the same order, each with as many plain and as many negated values, have the same SQL text under
every parameter style, whatever their texts, their values and the order of plain and negated values
are, and they fail alike under a style that does not exist. If the filters are registered, there are
statements under both styles. So two search strings that ask for filters of the same shape have the
same SQL text. -/
theorem sql_eq_of_shape_eq :
    (∀ (text text' : String) (filters filters' : Filters), filters.shape = filters'.shape →
      (∀ paramstyle : String,
        (RankedQuery.compile paramstyle ⟨some text, filters⟩).map (Option.map Statement.sql) =
          (RankedQuery.compile paramstyle ⟨some text', filters'⟩).map (Option.map Statement.sql)) ∧
      ((∀ entry ∈ filters, entry.1 ∈ filterNames) → ∀ style : MarkStyle,
        ∃ statement statement' : Statement,
          RankedQuery.compile style.name ⟨some text, filters⟩ = .ok (some statement) ∧
          RankedQuery.compile style.name ⟨some text', filters'⟩ = .ok (some statement') ∧
          statement.sql = statement'.sql)) ∧
    (∀ (limit limit' : Option Int) (relaxation relaxation' raw raw' : String)
        (query query' : RankedQuery),
      RankedQuery.parse limit relaxation raw = .ok query →
      RankedQuery.parse limit' relaxation' raw' = .ok query' →
      query.textQuery ≠ none → query'.textQuery ≠ none →
      query.filters.shape = query'.filters.shape → ∀ style : MarkStyle,
        ∃ statement statement' : Statement,
          RankedQuery.compile style.name query = .ok (some statement) ∧
          RankedQuery.compile style.name query' = .ok (some statement') ∧
          statement.sql = statement'.sql) := by
  refine ⟨fun text text' filters filters' hshape =>
    ⟨fun paramstyle => RankedQuery.compile_congr paramstyle text text' hshape,
      fun hnames style => RankedQuery.exists_compile_congr style text text' hshape hnames⟩, ?_⟩
  intro limit limit' relaxation relaxation' raw raw' query query' hparse hparse' htext htext' hshape
    style
  obtain ⟨text, hsome⟩ := Option.ne_none_iff_exists'.1 htext
  obtain ⟨text', hsome'⟩ := Option.ne_none_iff_exists'.1 htext'
  have hnames := RankedQuery.mem_filterNames_of_parse hparse
  obtain ⟨_, filters⟩ := query
  obtain ⟨_, filters'⟩ := query'
  obtain rfl := hsome
  obtain rfl := hsome'
  exact RankedQuery.exists_compile_congr style text text' hshape hnames

/-- Marks and quotation marks in the values, other interleavings and other texts change nothing. -/
theorem sql_eq_of_shape_eq_interleaved :
    Filters.shape [("planner", [.negated "a", .plain "b", .plain "c"])] =
      Filters.shape [("planner", [.plain "?, :9", .plain "x' OR 'x", .negated "))"])] ∧
    (∃ statement statement' : Statement,
      RankedQuery.compile "numeric" ⟨some "bolt", [("planner",
        [.negated "a", .plain "b", .plain "c"])]⟩ = .ok (some statement) ∧
      RankedQuery.compile "numeric" ⟨some ":1?", [("planner",
        [.plain "?, :9", .plain "x' OR 'x", .negated "))"])]⟩ = .ok (some statement') ∧
      statement.sql = statement'.sql) ∧
    ∃ (query query' : RankedQuery) (statement statement' : Statement),
      RankedQuery.parse none "exhaustive" "bolt planner:a -planner:b" = .ok query ∧
      RankedQuery.parse (some 3) "tiered" "-planner:x \"? :1\" planner:y" = .ok query' ∧
      RankedQuery.compile "qmark" query = .ok (some statement) ∧
      RankedQuery.compile "qmark" query' = .ok (some statement') ∧
      statement.sql = statement'.sql := by
  have hshape : Filters.shape [("planner", [.negated "a", .plain "b", .plain "c"])] =
      Filters.shape [("planner", [.plain "?, :9", .plain "x' OR 'x", .negated "))"])] := rfl
  have hparse : ∃ text, RankedQuery.parse none "exhaustive" "bolt planner:a -planner:b" =
      .ok ⟨some text, [("planner", [.plain "a", .negated "b"])]⟩ :=
    ⟨TextQuery.opening ++ "<seq>(\x7bbolt\x7d)</seq><seq>(%bolt%)</seq>" ++ TextQuery.closing,
      by decide +kernel⟩
  have hparse' : ∃ text, RankedQuery.parse (some 3) "tiered" "-planner:x \"? :1\" planner:y" =
      .ok ⟨some text, [("planner", [.negated "x", .plain "y"])]⟩ :=
    ⟨TextQuery.opening ++ "<seq>(\x7b :1\x7d)</seq>" ++ TextQuery.closing, by decide +kernel⟩
  obtain ⟨text, hparse⟩ := hparse
  obtain ⟨text', hparse'⟩ := hparse'
  obtain ⟨statement, statement', hstatement, hstatement', hsql⟩ :=
    sql_eq_of_shape_eq.2 _ _ _ _ _ _ _ _ hparse hparse' nofun nofun rfl .qmark
  exact ⟨hshape, (sql_eq_of_shape_eq.1 "bolt" ":1?" _ _ hshape).2 (by decide) .numeric,
    _, _, statement, statement', hparse, hparse', hstatement, hstatement', hsql⟩

end StockQuery
