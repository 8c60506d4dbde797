import StockQuery.Proofs.Series

/-!
# Which tables of filters are admitted

A table is admitted as a whole or not at all, and then the fault is that of the first declaration
with one: of its name, else of its column, else of its format. `IsComplete` and `Lacks` tell what is
asked of a declaration, without the checks.

Names are where the checks let more pass than they should. A filter name is made of small letters,
and that is what the fault of any other name says, but a line feed behind the letters is not seen
(`isFilterName_iff`). Reading does not suffer from it: there is no colon in such a name either, so
no two of them stand at one place of a text (`readName_eq_some_iff`).
-/

namespace StockQuery

open Search

/-! ## What is asked of a declaration -/

/-- A filter name, or one with a line feed behind it. -/
def IsLooseName (name : String) : Prop :=
  IsLetterName name ∨ ∃ letters, IsLetterName letters ∧ name = letters ++ "\n"

namespace FilterDeclaration

/-- The declaration has all that is asked for. -/
structure IsComplete (d : FilterDeclaration) : Prop where
  /-- The name is one or more small letters, with at most one line feed behind them. -/
  name : IsLooseName d.name
  /-- The column has a character that is no blank. -/
  column : ∃ c ∈ d.column.toList, Text.isBlank c = false
  /-- There is a way to write values. -/
  format : ∃ format, d.format? = some format

/-- The fault is the first one of the declaration. -/
inductive Lacks (d : FilterDeclaration) : RegistryFault → Prop
  /-- The name is not a filter name. -/
  | name (h : ¬ IsLooseName d.name) : Lacks d (.badName d.name)
  /-- The name is one, and the column is blank. -/
  | column (hname : IsLooseName d.name) (h : ∀ c ∈ d.column.toList, Text.isBlank c = true) :
      Lacks d (.noColumn d.name)
  /-- Name and column are as they should be, and there is no way to write values. -/
  | format (hname : IsLooseName d.name) (hcolumn : ∃ c ∈ d.column.toList, Text.isBlank c = false)
      (h : d.format? = none) : Lacks d (.noFormat d.name)

/-- The filter is the declared one, and the declaration is complete. -/
structure IsAdmittedAs (d : FilterDeclaration) (f : ColumnFilter) : Prop extends d.IsComplete where
  /-- The filter has the declared name. -/
  name_eq : f.name = d.name
  /-- It has the declared column. -/
  column_eq : f.column = d.column
  /-- It writes values as declared. -/
  format_eq : d.format? = some f.format

end FilterDeclaration

/-! ## Names -/

theorem dropFinalNewline_append (cs : List Char) : dropFinalNewline (cs ++ ['\n']) = cs := by
  rw [dropFinalNewline, if_pos List.getLast?_concat, List.dropLast_concat]

theorem dropFinalNewline_of_notMem {cs : List Char} (h : '\n' ∉ cs) : dropFinalNewline cs = cs := by
  rw [dropFinalNewline, if_neg]
  intro hlast
  exact h (List.mem_of_getLast? hlast)

/-- A text is what is left of it, with or without one line feed at the end. -/
theorem eq_or_eq_dropFinalNewline_append (cs : List Char) :
    cs = dropFinalNewline cs ∨ cs = dropFinalNewline cs ++ ['\n'] := by
  by_cases hlast : cs.getLast? = some '\n'
  · right
    obtain ⟨front, rfl⟩ := List.getLast?_eq_some_iff.mp hlast
    rw [dropFinalNewline_append]
  · left
    rw [dropFinalNewline, if_neg hlast]

/-- A letter name has none of the characters that are no letters. -/
theorem Search.IsLetterName.notMem {name : String} (h : IsLetterName name) {c : Char}
    (hc : c.isLower = false) : c ∉ name.toList := by
  intro hmem
  have hlower := h.2 c hmem
  rw [hc] at hlower
  cases hlower

/-- The check that is made is the loose one, which allows a line feed at the end. -/
theorem isFilterName_iff {name : String} : isFilterName name = true ↔ IsLooseName name := by
  have hletters : isFilterName name = true ↔
      IsLetterName (String.ofList (dropFinalNewline name.toList)) := by
    simp [isFilterName, IsLetterName]
  rw [hletters]
  constructor
  · intro h
    rcases eq_or_eq_dropFinalNewline_append name.toList with heq | heq
    · left
      rw [← heq, String.ofList_toList] at h
      exact h
    · right
      refine ⟨_, h, String.toList_inj.mp ?_⟩
      rw [String.toList_append, String.toList_ofList]
      exact heq
  · rintro (h | ⟨letters, h, rfl⟩)
    · rw [dropFinalNewline_of_notMem (h.notMem rfl), String.ofList_toList]
      exact h
    · have hdrop : dropFinalNewline (letters ++ "\n").toList = letters.toList := by
        rw [String.toList_append]
        exact dropFinalNewline_append letters.toList
      rw [hdrop, String.ofList_toList]
      exact h

/-- Nothing but lower-case letters and the line feed occurs in such a name. -/
theorem IsLooseName.notMem {name : String} (h : IsLooseName name) {c : Char}
    (hc : c.isLower = false) (hfeed : c ≠ '\n') : c ∉ name.toList := by
  rcases h with h | ⟨letters, h, rfl⟩
  · exact h.notMem hc
  · rw [String.toList_append, List.mem_append, not_or]
    refine ⟨h.notMem hc, ?_⟩
    intro hmem
    exact hfeed (List.mem_singleton.mp hmem)

/-- A name never starts with the dash of a negation, also not when more text follows it. -/
theorem IsLooseName.head?_ne {name : String} (h : IsLooseName name) (rest : List Char) :
    (name.toList ++ rest).head? ≠ some '-' := by
  rcases h with h | ⟨letters, h, rfl⟩
  · exact h.head?_ne rest
  · rw [String.toList_append, List.append_assoc]
    exact h.head?_ne _

/-- Where no name has a colon, a name is found exactly where it stands with one behind it. -/
theorem Search.readName_eq_some_iff {names : List String}
    (hnames : ∀ name ∈ names, ':' ∉ name.toList) {cs rest : List Char} {name : String} :
    readName names cs = some (name, rest) ↔ name ∈ names ∧ cs = name.toList ++ ':' :: rest := by
  constructor
  · exact readName_eq_some
  · rintro ⟨hname, rfl⟩
    exact readName_complete hnames hname rest

/-! ## Declarations -/

theorem allBlank_eq_false_iff {s : String} :
    Text.allBlank s = false ↔ ∃ c ∈ s.toList, Text.isBlank c = false := by
  rw [Text.allBlank, List.all_eq_false]
  simp only [Bool.not_eq_true]

namespace FilterDeclaration

variable {d : FilterDeclaration} {f : ColumnFilter} {fault : RegistryFault}

/-- A complete declaration has everything the filter it declares is made of. -/
theorem IsComplete.exists_isAdmittedAs (h : d.IsComplete) : ∃ f, d.IsAdmittedAs f := by
  obtain ⟨format, hformat⟩ := h.format
  exact ⟨⟨d.name, d.column, format⟩, h, rfl, rfl, hformat⟩

theorem IsAdmittedAs.checked_eq (h : d.IsAdmittedAs f) : d.checked = .ok f := by
  obtain ⟨name, column, format⟩ := f
  have hname : isFilterName d.name = true := isFilterName_iff.mpr h.name
  have hcolumn : Text.allBlank d.column = false := allBlank_eq_false_iff.mpr h.column
  obtain rfl : name = d.name := h.name_eq
  obtain rfl : column = d.column := h.column_eq
  have hformat : d.format? = some format := h.format_eq
  simp [checked, hname, hcolumn, hformat]

theorem Lacks.checked_eq (h : d.Lacks fault) : d.checked = .error fault := by
  cases h with
  | name h =>
    have hname : isFilterName d.name = false := Bool.eq_false_iff.mpr (mt isFilterName_iff.mp h)
    simp [checked, hname]
  | column hname h =>
    have hblank : Text.allBlank d.column = true := List.all_eq_true.mpr h
    simp [checked, isFilterName_iff.mpr hname, hblank]
  | format hname hcolumn h =>
    have hblank : Text.allBlank d.column = false := allBlank_eq_false_iff.mpr hcolumn
    simp [checked, isFilterName_iff.mpr hname, hblank, h]

/-- A declaration is complete or has a first fault. -/
theorem isAdmittedAs_or_lacks (d : FilterDeclaration) :
    (∃ f, d.IsAdmittedAs f) ∨ ∃ fault, d.Lacks fault := by
  by_cases hname : IsLooseName d.name
  · by_cases hcolumn : ∃ c ∈ d.column.toList, Text.isBlank c = false
    · cases hformat : d.format? with
      | none => exact .inr ⟨_, .format hname hcolumn hformat⟩
      | some format =>
        have hcomplete : d.IsComplete := ⟨hname, hcolumn, format, hformat⟩
        exact .inl hcomplete.exists_isAdmittedAs
    · have hblank : Text.allBlank d.column = true := by
        by_contra hvisible
        exact hcolumn (allBlank_eq_false_iff.mp (Bool.eq_false_iff.mpr hvisible))
      exact .inr ⟨_, .column hname (List.all_eq_true.mp hblank)⟩
  · exact .inr ⟨_, .name hname⟩

/-- A declaration that lacks something is not complete. -/
theorem Lacks.not_isComplete (h : d.Lacks fault) : ¬ d.IsComplete := by
  intro hcomplete
  obtain ⟨f, hf⟩ := hcomplete.exists_isAdmittedAs
  have hboth := hf.checked_eq
  rw [h.checked_eq] at hboth
  cases hboth

end FilterDeclaration

/-! ## Tables -/

variable {table : List FilterDeclaration} {filters : List ColumnFilter} {fault : RegistryFault}

/-- The fault is that of the first declaration that has one. -/
def FirstLacks (table : List FilterDeclaration) (fault : RegistryFault) : Prop :=
  ∃ before d after, table = before ++ d :: after ∧ (∀ e ∈ before, e.IsComplete) ∧ d.Lacks fault

theorem admitFilters_cons (d : FilterDeclaration) (table : List FilterDeclaration) :
    admitFilters (d :: table) = d.checked.bind fun f => (admitFilters table).map (f :: ·) := by
  rw [admitFilters, List.mapM_cons]
  cases d.checked with
  | error fault => rfl
  | ok f =>
    show (List.mapM FilterDeclaration.checked table).bind _ = _
    rw [admitFilters]
    cases List.mapM FilterDeclaration.checked table <;> rfl

/-- A table of complete declarations is admitted, entry by entry. -/
theorem admitFilters_of_forall₂
    (h : List.Forall₂ FilterDeclaration.IsAdmittedAs table filters) :
    admitFilters table = .ok filters := by
  induction h with
  | nil => rfl
  | cons hd _ ih =>
    rw [admitFilters_cons, hd.checked_eq, ih]
    rfl

/-- The first entry that lacks something decides the error, by induction on where it stands. -/
theorem FirstLacks.admitFilters_eq (h : FirstLacks table fault) :
    admitFilters table = .error fault := by
  obtain ⟨before, d, after, rfl, hbefore, hlacks⟩ := h
  induction before with
  | nil =>
    rw [List.nil_append, admitFilters_cons, hlacks.checked_eq]
    rfl
  | cons e before ih =>
    obtain ⟨he, hbefore⟩ := List.forall_mem_cons.mp hbefore
    obtain ⟨f, hf⟩ := he.exists_isAdmittedAs
    rw [List.cons_append, admitFilters_cons, hf.checked_eq, ih hbefore]
    rfl

/-- A table is complete or has a first declaration with a fault. -/
theorem forall₂_isAdmittedAs_or_firstLacks (table : List FilterDeclaration) :
    (∃ filters, List.Forall₂ FilterDeclaration.IsAdmittedAs table filters) ∨
      ∃ fault, FirstLacks table fault := by
  induction table with
  | nil => exact .inl ⟨[], .nil⟩
  | cons d table ih =>
    rcases d.isAdmittedAs_or_lacks with ⟨f, hadmitted⟩ | ⟨fault, hlacks⟩
    · rcases ih with ⟨filters, hfilters⟩ | ⟨fault, before, e, after, rfl, hbefore, hlacks⟩
      · exact .inl ⟨f :: filters, .cons hadmitted hfilters⟩
      · right
        refine ⟨fault, d :: before, e, after, rfl, ?_, hlacks⟩
        exact List.forall_mem_cons.mpr ⟨hadmitted.toIsComplete, hbefore⟩
    · exact .inr ⟨fault, [], d, table, rfl, List.forall_mem_nil _, hlacks⟩

theorem admitFilters_eq_ok_iff : admitFilters table = .ok filters ↔
    List.Forall₂ FilterDeclaration.IsAdmittedAs table filters := by
  constructor
  · intro h
    rcases forall₂_isAdmittedAs_or_firstLacks table with ⟨others, hothers⟩ | ⟨fault, hfault⟩
    · rw [admitFilters_of_forall₂ hothers] at h
      exact Except.ok.inj h ▸ hothers
    · rw [hfault.admitFilters_eq] at h
      cases h
  · exact admitFilters_of_forall₂

/-- The registry is what the declared filters are admitted as. -/
example : admitFilters declaredFilters = .ok registry := rfl

theorem admitFilters_eq_error_iff : admitFilters table = .error fault ↔ FirstLacks table fault := by
  constructor
  · intro h
    rcases forall₂_isAdmittedAs_or_firstLacks table with ⟨filters, hfilters⟩ | ⟨other, hother⟩
    · rw [admitFilters_of_forall₂ hfilters] at h
      cases h
    · rw [hother.admitFilters_eq] at h
      exact Except.error.inj h ▸ hother
  · exact FirstLacks.admitFilters_eq

/-- A table is admitted exactly when each of its entries is complete. -/
theorem exists_admitFilters_iff :
    (∃ filters, admitFilters table = .ok filters) ↔ ∀ d ∈ table, d.IsComplete := by
  constructor
  · rintro ⟨filters, h⟩
    have hall := admitFilters_eq_ok_iff.mp h
    clear h
    induction hall with
    | nil => exact List.forall_mem_nil _
    | cons hd _ ih => exact List.forall_mem_cons.mpr ⟨hd.toIsComplete, ih⟩
  · intro h
    rcases forall₂_isAdmittedAs_or_firstLacks table with ⟨filters, hall⟩ | ⟨fault, hfault⟩
    · exact ⟨filters, admitFilters_of_forall₂ hall⟩
    · obtain ⟨before, d, after, rfl, -, hlacks⟩ := hfault
      have hd : d.IsComplete := h d (List.mem_append_right _ List.mem_cons_self)
      exact absurd hd hlacks.not_isComplete

/-- Every name that is admitted has passed the check of names. -/
theorem isLooseName_of_admitFilters (h : admitFilters table = .ok filters) :
    ∀ f ∈ filters, IsLooseName f.name := by
  have hall := admitFilters_eq_ok_iff.mp h
  clear h
  induction hall with
  | nil => exact List.forall_mem_nil _
  | cons hd _ ih =>
    refine List.forall_mem_cons.mpr ⟨?_, ih⟩
    rw [hd.name_eq]
    exact hd.name

/-- A table is admitted exactly if every declaration in it is complete, and else the fault is the
first one of the first declaration that is not. The filters of an admitted table are the declared
ones in their order. Each of their names is read where it stands with a colon behind it, with a sign
or without, and no other one can be read there. -/
theorem admitFilters_outcome (table : List FilterDeclaration) :
    ((∃ filters, admitFilters table = .ok filters) ↔ ∀ d ∈ table, d.IsComplete) ∧
    (∀ fault, admitFilters table = .error fault ↔ FirstLacks table fault) ∧
    ∀ filters, admitFilters table = .ok filters →
      List.Forall₂ FilterDeclaration.IsAdmittedAs table filters ∧
      (∀ cs name rest, readName (filters.map ColumnFilter.name) cs = some (name, rest) ↔
        name ∈ filters.map ColumnFilter.name ∧ cs = name.toList ++ ':' :: rest) ∧
      ∀ f ∈ filters, ∀ negated rest,
        readSign (signed negated (f.name.toList ++ rest)) = (negated, f.name.toList ++ rest) := by
  refine ⟨exists_admitFilters_iff, fun fault => admitFilters_eq_error_iff, ?_⟩
  intro filters h
  have hloose := isLooseName_of_admitFilters h
  refine ⟨admitFilters_eq_ok_iff.mp h, ?_, ?_⟩
  · have hcolon : ∀ name ∈ filters.map ColumnFilter.name, ':' ∉ name.toList := by
      intro name hname
      obtain ⟨f, hf, rfl⟩ := List.mem_map.mp hname
      exact (hloose f hf).notMem rfl (by decide)
    intro cs name rest
    exact readName_eq_some_iff hcolon
  · intro f hf negated rest
    exact readSign_signed negated ((hloose f hf).head?_ne rest)

/-- The second name is the start of the first, and each is read where it stands. -/
theorem admitFilters_outcome_line_feed :
    admitFilters [⟨"planner\n", " b ", some Text.upper⟩, ⟨"plan", "p", some Text.lower⟩] =
      .ok [⟨"planner\n", " b ", Text.upper⟩, ⟨"plan", "p", Text.lower⟩] ∧
    readName ["planner\n", "plan"] "planner\n:ab".toList = some ("planner\n", "ab".toList) ∧
    readName ["planner\n", "plan"] "plan:ab".toList = some ("plan", "ab".toList) ∧
    admitFilters [⟨"plan", "p", some Text.lower⟩, ⟨"part", "\t", none⟩, ⟨"Unit", "u", none⟩] =
      .error (.noColumn "part") := by
  have hok : admitFilters [⟨"planner\n", " b ", some Text.upper⟩,
      ⟨"plan", "p", some Text.lower⟩] =
        .ok [⟨"planner\n", " b ", Text.upper⟩, ⟨"plan", "p", Text.lower⟩] := rfl
  obtain ⟨-, hread, -⟩ := (admitFilters_outcome _).2.2 _ hok
  refine ⟨hok, (hread _ _ _).mpr ⟨by simp, by simp⟩, (hread _ _ _).mpr ⟨by simp, by simp⟩, ?_⟩
  refine ((admitFilters_outcome _).2.1 _).mpr
    ⟨[⟨"plan", "p", some Text.lower⟩], ⟨"part", "\t", none⟩, _, rfl, ?_, .column ?_ ?_⟩
  · intro e he
    obtain rfl := List.mem_singleton.mp he
    exact ⟨.inl (by decide), ⟨'p', by simp, by decide⟩, _, rfl⟩
  · exact .inl (by decide)
  · intro c hc
    obtain rfl := List.mem_singleton.mp hc
    decide

/-- A name with a line feed behind its letters is admitted, although it is not made of letters. -/
theorem admitFilters_passes_line_feed :
    (∃ filters, admitFilters [⟨"planner\n", "ip.planner_buyer", some Text.upper⟩] = .ok filters) ∧
    ¬ ∀ d ∈ [(⟨"planner\n", "ip.planner_buyer", some Text.upper⟩ : FilterDeclaration)],
      IsLetterName d.name ∧ (∃ c ∈ d.column.toList, Text.isBlank c = false) ∧
        ∃ format, d.format? = some format := by
  refine ⟨⟨_, rfl⟩, ?_⟩
  intro hall
  have hname : IsLetterName "planner\n" := (hall _ List.mem_cons_self).1
  exact absurd hname (by decide)

end StockQuery
