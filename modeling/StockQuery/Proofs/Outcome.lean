import StockQuery.Proofs.Agreement
import StockQuery.Proofs.NormalForm

/-!
# Outcomes of preparing a search

Five things can come of a search string, and they are looked for in a fixed order: the string is
rejected, its relaxation is not known, there is nothing to search for, its parameter style is not
known, and otherwise there is a statement. What comes later is not looked at before. A filter that
is not registered is no outcome, because a search string can name registered filters only; a query
from elsewhere fails at the first such filter, and only if all the rest is in order.
-/

namespace StockQuery

/-! ## Filters that are not registered -/

/-- The first of the named filters that is not registered. -/
def Filters.unregistered? (filters : Filters) : Option String :=
  (Entries.keys filters).find? (· ∉ filterNames)

theorem Filters.unregistered?_cons (name : String) (values : List Criterion) (rest : Filters) :
    unregistered? ((name, values) :: rest) =
      if name ∈ filterNames then unregistered? rest else some name := by
  simp only [unregistered?, Entries.keys, List.map_cons, List.find?_cons]
  by_cases hname : name ∈ filterNames <;> simp [hname]

/-- The conditions of filters fail at the first one that is not registered. -/
theorem Conditions.mapM_ofFiltersFrom (first : Nat) (filters : Filters) :
    (∃ conditions, (ofFiltersFrom first filters).mapM id = .ok conditions ∧
      filters.unregistered? = none) ∨
    ∃ name, (ofFiltersFrom first filters).mapM id = .error (.unregisteredFilter name) ∧
      filters.unregistered? = some name := by
  induction filters generalizing first with
  | nil => exact .inl ⟨[], rfl, rfl⟩
  | cons entry rest ih =>
    obtain ⟨name, values⟩ := entry
    rw [ofFiltersFrom_cons, List.mapM_cons, Filters.unregistered?_cons]
    by_cases hname : name ∈ filterNames
    · obtain ⟨conditions, hfilter, -⟩ := exists_ofFilter first hname values
      rw [hfilter, if_pos hname]
      rcases ih (first + (Binding.ofFilter name values).length) with
        ⟨more, hmore, hnone⟩ | ⟨other, hother, hsome⟩
      · rw [hmore]
        exact .inl ⟨conditions :: more, rfl, hnone⟩
      · rw [hother]
        exact .inr ⟨other, rfl, hsome⟩
    · rw [ofFilter_eq_error first hname, if_neg hname]
      exact .inr ⟨name, rfl, rfl⟩

theorem RankedQuery.compile_eq_unregistered_iff {query : RankedQuery} {paramstyle name : String} :
    query.compile paramstyle = .error (.unregisteredFilter name) ↔
      query.textQuery ≠ none ∧ paramstyle ∈ ["qmark", "numeric"] ∧
        query.filters.unregistered? = some name := by
  obtain ⟨textQuery, filters⟩ := query
  cases textQuery with
  | none => simp [compile]
  | some text =>
    rw [compile_eq]
    by_cases hstyle : paramstyle ∈ ["qmark", "numeric"]
    · obtain ⟨style, rfl⟩ := MarkStyle.exists_name_eq hstyle
      rw [MarkStyle.ofName_name]
      rcases Conditions.mapM_ofFiltersFrom 2 filters with
        ⟨conditions, hconditions, hnone⟩ | ⟨other, hother, hsome⟩
      · simp [Except.bind, Except.map, hconditions, hnone]
      · simp [Except.bind, Except.map, hother, hsome, hstyle]
    · simp [MarkStyle.ofName_of_notMem hstyle, Except.bind, hstyle]

/-- The filters of a search string are registered. -/
theorem RankedQuery.unregistered?_of_parse {limit : Option Int} {relaxation raw : String}
    {query : RankedQuery} (h : parse limit relaxation raw = .ok query) :
    query.filters.unregistered? = none := by
  rw [Filters.unregistered?, List.find?_eq_none]
  intro name hname
  obtain ⟨entry, hentry, rfl⟩ := List.mem_map.mp hname
  simpa using mem_filterNames_of_parse h entry hentry

/-! ## Search strings that are accepted -/

namespace SearchOptions

variable {options : SearchOptions} {raw : String} {tree : Tree}

theorem prepare_of_unknown_relaxation
    (h : Search.parse filterNames options.maxTerms raw = .ok tree)
    (hrelaxation : options.relaxation ∉ ["exhaustive", "tiered"]) :
    options.prepare raw = .error (.failed (.unsupportedRelaxation options.relaxation)) := by
  refine prepare_of_textQuery_error h ?_
  rw [NormalQuery.textQuery, Relaxation.ofName_of_notMem hrelaxation]
  rfl

/-- Without terms there is no full-text query and no statement, whatever the parameter style. -/
theorem prepare_of_wanted_eq_nil (h : Search.parse filterNames options.maxTerms raw = .ok tree)
    (hrelaxation : options.relaxation ∈ ["exhaustive", "tiered"]) (hwanted : tree.wanted = []) :
    options.prepare raw = .ok ⟨⟨none, (NormalQuery.ofTree tree).filters⟩, none⟩ := by
  obtain ⟨relaxation, hname⟩ := Relaxation.exists_name_eq hrelaxation
  have hterms : (NormalQuery.ofTree tree).terms = [] := List.map_eq_nil_iff.mpr hwanted
  have htext : (NormalQuery.ofTree tree).textQuery options.relaxation = .ok none := by
    rw [hname, NormalQuery.textQuery, Relaxation.ofName_name]
    show TextQuery.ofNormal relaxation (NormalQuery.ofTree tree) = .ok none
    rw [TextQuery.ofNormal, hterms]
    rfl
  rw [prepare_of_textQuery h htext]
  rfl

/-- With terms there is a full-text query. -/
theorem exists_textQuery_of_wanted_ne_nil
    (hrelaxation : options.relaxation ∈ ["exhaustive", "tiered"]) (hwanted : tree.wanted ≠ []) :
    ∃ text, (NormalQuery.ofTree tree).textQuery options.relaxation = .ok (some text) := by
  obtain ⟨relaxation, hname⟩ := Relaxation.exists_name_eq hrelaxation
  have hterms : (NormalQuery.ofTree tree).terms ≠ [] :=
    fun hnil => hwanted (List.map_eq_nil_iff.mp hnil)
  rw [hname]
  exact ⟨_, NormalQuery.textQuery_eq hterms (relaxation.choices_alternatives tree.wanted)⟩

theorem prepare_of_unknown_paramstyle {text : String}
    (h : Search.parse filterNames options.maxTerms raw = .ok tree)
    (htext : (NormalQuery.ofTree tree).textQuery options.relaxation = .ok (some text))
    (hstyle : options.paramstyle ∉ ["qmark", "numeric"]) :
    options.prepare raw = .error (.failed (.unsupportedParamstyle options.paramstyle)) := by
  rw [prepare_of_textQuery h htext, RankedQuery.compile_eq, MarkStyle.ofName_of_notMem hstyle]
  rfl

theorem exists_statement {text : String}
    (h : Search.parse filterNames options.maxTerms raw = .ok tree)
    (htext : (NormalQuery.ofTree tree).textQuery options.relaxation = .ok (some text))
    (hstyle : options.paramstyle ∈ ["qmark", "numeric"]) :
    ∃ statement : Statement, options.prepare raw =
        .ok ⟨⟨some text, (NormalQuery.ofTree tree).filters⟩, some statement⟩ ∧
      statement.params.head? = some text := by
  obtain ⟨style, hname⟩ := MarkStyle.exists_name_eq hstyle
  have hnames := RankedQuery.mem_filterNames_of_parse (RankedQuery.parse_of_tree h htext)
  obtain ⟨conditions, hcompile⟩ := RankedQuery.exists_compile style text hnames
  rw [← hname] at hcompile
  refine ⟨Statement.ofConditions style text conditions, ?_, rfl⟩
  rw [prepare_of_textQuery h htext, hcompile]
  rfl

/-- What can come of a search string under options. Each outcome but the first needs that the ones
before it are ruled out. -/
inductive Outcome (options : SearchOptions) (raw : String) : Except Refusal SearchPlan → Prop where
  /-- The search string is rejected. -/
  | rejected {rejection : Rejection}
    (h : Search.parse filterNames options.maxTerms raw = .error rejection) :
    Outcome options raw (.error (.rejected rejection))
  /-- The relaxation is not known. -/
  | relaxation {tree : Tree} (h : Search.parse filterNames options.maxTerms raw = .ok tree)
    (hrelaxation : options.relaxation ∉ ["exhaustive", "tiered"]) :
    Outcome options raw (.error (.failed (.unsupportedRelaxation options.relaxation)))
  /-- There is nothing to search for. -/
  | nothing {tree : Tree} (h : Search.parse filterNames options.maxTerms raw = .ok tree)
    (hrelaxation : options.relaxation ∈ ["exhaustive", "tiered"]) (hwanted : tree.wanted = []) :
    Outcome options raw (.ok ⟨⟨none, (NormalQuery.ofTree tree).filters⟩, none⟩)
  /-- The parameter style is not known. -/
  | paramstyle {tree : Tree} (h : Search.parse filterNames options.maxTerms raw = .ok tree)
    (hrelaxation : options.relaxation ∈ ["exhaustive", "tiered"]) (hwanted : tree.wanted ≠ [])
    (hstyle : options.paramstyle ∉ ["qmark", "numeric"]) :
    Outcome options raw (.error (.failed (.unsupportedParamstyle options.paramstyle)))
  /-- There is a statement, and the full-text query is its first parameter. -/
  | statement {tree : Tree} {text : String} {statement : Statement}
    (h : Search.parse filterNames options.maxTerms raw = .ok tree)
    (hrelaxation : options.relaxation ∈ ["exhaustive", "tiered"]) (hwanted : tree.wanted ≠ [])
    (hstyle : options.paramstyle ∈ ["qmark", "numeric"])
    (htext : (NormalQuery.ofTree tree).textQuery options.relaxation = .ok (some text))
    (hfirst : statement.params.head? = some text) :
    Outcome options raw (.ok ⟨⟨some text, (NormalQuery.ofTree tree).filters⟩, some statement⟩)

theorem outcome_prepare (options : SearchOptions) (raw : String) :
    Outcome options raw (options.prepare raw) := by
  cases h : Search.parse filterNames options.maxTerms raw with
  | error rejection =>
    rw [prepare_of_rejection h]
    exact .rejected h
  | ok tree =>
    by_cases hrelaxation : options.relaxation ∈ ["exhaustive", "tiered"]
    · by_cases hwanted : tree.wanted = []
      · rw [prepare_of_wanted_eq_nil h hrelaxation hwanted]
        exact .nothing h hrelaxation hwanted
      · obtain ⟨text, htext⟩ := exists_textQuery_of_wanted_ne_nil hrelaxation hwanted
        by_cases hstyle : options.paramstyle ∈ ["qmark", "numeric"]
        · obtain ⟨statement, hprepare, hfirst⟩ := exists_statement h htext hstyle
          rw [hprepare]
          exact .statement h hrelaxation hwanted hstyle htext hfirst
        · rw [prepare_of_unknown_paramstyle h htext hstyle]
          exact .paramstyle h hrelaxation hwanted hstyle
    · rw [prepare_of_unknown_relaxation h hrelaxation]
      exact .relaxation h hrelaxation

end SearchOptions

theorem Tree.wanted_eq_nil_iff {tree : Tree} :
    tree.wanted = [] ↔ ∀ t : Term, .term t ∈ tree → t.negated = true := by
  rw [List.eq_nil_iff_forall_not_mem]
  simp only [wanted, mem_wanted, not_and, Bool.not_eq_false]

theorem Tree.wanted_ne_nil_iff {tree : Tree} :
    tree.wanted ≠ [] ↔ ∃ t : Term, .term t ∈ tree ∧ t.negated = false := by
  rw [ne_eq, wanted_eq_nil_iff]
  simp only [not_forall, Bool.not_eq_true, exists_prop]

/-! ## The order of outcomes -/

/-- What comes of a search string is settled in a fixed order. It is rejected if and only if its
reader rejects it, under all other settings. If not, an unknown relaxation is a failure, even if
there is nothing to search for. Under a known one there is no statement if and only if no term is
looked for, whatever the parameter style. If one is, an unknown parameter style is a failure, and
under a known one there is a statement that has the full-text query as its first parameter. There is
no other failure: the filters of a search string are registered. A query from elsewhere fails at its
first filter that is not, with or without values, if it has a full-text query and the parameter
style is known. -/
theorem SearchOptions.prepare_outcome (options : SearchOptions) (raw : String) :
    (∀ rejection, options.prepare raw = .error (.rejected rejection) ↔
      Search.parse filterNames options.maxTerms raw = .error rejection) ∧
    (∀ tree, Search.parse filterNames options.maxTerms raw = .ok tree →
      (options.prepare raw = .error (.failed (.unsupportedRelaxation options.relaxation)) ↔
        options.relaxation ∉ ["exhaustive", "tiered"]) ∧
      (options.relaxation ∈ ["exhaustive", "tiered"] →
        ((∃ plan, options.prepare raw = .ok plan ∧ plan.statement = none) ↔
          ∀ t : Term, .term t ∈ tree → t.negated = true) ∧
        ((∃ t : Term, .term t ∈ tree ∧ t.negated = false) →
          (options.prepare raw = .error (.failed (.unsupportedParamstyle options.paramstyle)) ↔
            options.paramstyle ∉ ["qmark", "numeric"]) ∧
          (options.paramstyle ∈ ["qmark", "numeric"] → ∃ plan statement text,
            options.prepare raw = .ok plan ∧ plan.statement = some statement ∧
            plan.query.textQuery = some text ∧
            (NormalQuery.ofTree tree).textQuery options.relaxation = .ok (some text) ∧
            statement.params.head? = some text)))) ∧
    (∀ failure, options.prepare raw = .error (.failed failure) →
      failure = .unsupportedRelaxation options.relaxation ∨
      failure = .unsupportedParamstyle options.paramstyle) ∧
    (∀ name, (Failure.unsupportedRelaxation name).message = "Unsupported relaxation: " ++ name ∧
      (Failure.unsupportedParamstyle name).message = "Unsupported paramstyle: " ++ name) ∧
    (∀ limit relaxation query, RankedQuery.parse limit relaxation raw = .ok query →
      ∀ paramstyle name, query.compile paramstyle ≠ .error (.unregisteredFilter name)) ∧
    ∀ (query : RankedQuery) (paramstyle name : String),
      query.compile paramstyle = .error (.unregisteredFilter name) ↔
        query.textQuery ≠ none ∧ paramstyle ∈ ["qmark", "numeric"] ∧
          query.filters.unregistered? = some name := by
  have houtcome := outcome_prepare options raw
  generalize options.prepare raw = result at houtcome ⊢
  refine ⟨?_, ?_, ?_, fun name => ⟨rfl, rfl⟩, ?_, ?_⟩
  · intro rejection
    cases houtcome with
    | rejected h => simp [h]
    | relaxation h | nothing h | paramstyle h | statement h => simp [h]
  · intro tree htree
    rw [← Tree.wanted_eq_nil_iff, ← Tree.wanted_ne_nil_iff]
    cases houtcome with
    | rejected h => cases htree.symm.trans h
    | relaxation h hrelaxation =>
      exact ⟨iff_of_true rfl hrelaxation, fun hknown => absurd hknown hrelaxation⟩
    | nothing h hrelaxation hwanted =>
      obtain rfl := Except.ok.inj (htree.symm.trans h)
      refine ⟨iff_of_false nofun (not_not_intro hrelaxation), fun _ => ⟨?_, ?_⟩⟩
      · exact iff_of_true ⟨_, rfl, rfl⟩ hwanted
      · exact fun hsome => absurd hwanted hsome
    | paramstyle h hrelaxation hwanted hstyle =>
      obtain rfl := Except.ok.inj (htree.symm.trans h)
      refine ⟨iff_of_false nofun (not_not_intro hrelaxation), fun _ => ⟨?_, fun _ => ⟨?_, ?_⟩⟩⟩
      · exact iff_of_false nofun hwanted
      · exact iff_of_true rfl hstyle
      · exact fun hknown => absurd hknown hstyle
    | statement h hrelaxation hwanted hstyle htext hfirst =>
      obtain rfl := Except.ok.inj (htree.symm.trans h)
      refine ⟨iff_of_false nofun (not_not_intro hrelaxation), fun _ => ⟨?_, fun _ => ⟨?_, ?_⟩⟩⟩
      · exact iff_of_false nofun hwanted
      · exact iff_of_false nofun (not_not_intro hstyle)
      · exact fun _ => ⟨_, _, _, rfl, rfl, rfl, htext, hfirst⟩
  · intro failure hfailure
    cases houtcome with
    | relaxation => exact .inl (Refusal.failed.inj (Except.error.inj hfailure)).symm
    | paramstyle => exact .inr (Refusal.failed.inj (Except.error.inj hfailure)).symm
    | rejected | nothing | statement => cases hfailure
  · intro limit relaxation query hparse paramstyle name hcompile
    obtain ⟨-, -, hname⟩ := RankedQuery.compile_eq_unregistered_iff.mp hcompile
    rw [RankedQuery.unregistered?_of_parse hparse] at hname
    cases hname
  · intro query paramstyle name
    exact RankedQuery.compile_eq_unregistered_iff

/-- A blank search fails under an unknown relaxation; one that only leaves out a term passes under
an unknown parameter style, and one that looks for a term does not. Of two unknown filters the first
one is named, even without values. -/
theorem SearchOptions.prepare_outcome_unknown_names :
    SearchOptions.prepare ⟨none, "fuzzy", "pyformat"⟩ "" =
      .error (.failed (.unsupportedRelaxation "fuzzy")) ∧
    (∃ plan, SearchOptions.prepare ⟨some (-1), "tiered", "pyformat"⟩ "-bolt" = .ok plan ∧
      plan.statement = none) ∧
    SearchOptions.prepare ⟨none, "tiered", "pyformat"⟩ "bolt -nut" =
      .error (.failed (.unsupportedParamstyle "pyformat")) ∧
    RankedQuery.compile "numeric" ⟨some "bolt",
        [("planner", [.plain "x"]), ("depot", []), ("shelf", [.plain "x"])]⟩ =
      .error (.unregisteredFilter "depot") := by
  have hblank : Search.parse filterNames none "" = .ok [] := by decide +kernel
  have hnegated : Search.parse filterNames (some (-1)) "-bolt" =
      .ok [.term ⟨"bolt", false, true⟩] := by decide +kernel
  have hmixed : Search.parse filterNames none "bolt -nut" =
      .ok [.term ⟨"bolt", false, false⟩, .term ⟨"nut", false, true⟩] := by decide +kernel
  obtain ⟨-, htree, -⟩ := prepare_outcome ⟨none, "fuzzy", "pyformat"⟩ ""
  obtain ⟨-, htree', -⟩ := prepare_outcome ⟨some (-1), "tiered", "pyformat"⟩ "-bolt"
  obtain ⟨-, htree'', -, -, -, hcompile⟩ :=
    prepare_outcome ⟨none, "tiered", "pyformat"⟩ "bolt -nut"
  refine ⟨(htree _ hblank).1.mpr (by decide), ?_, ?_, (hcompile _ _ _).mpr ?_⟩
  · exact ((htree' _ hnegated).2 (by decide)).1.mpr (by simp)
  · exact (((htree'' _ hmixed).2 (by decide)).2 ⟨⟨"bolt", false, false⟩, by simp, rfl⟩).1.mpr
      (by decide)
  · exact ⟨by simp, by decide, by decide +kernel⟩

end StockQuery
