import StockQuery.Proofs.Ranking
import StockQuery.Proofs.Shape

/-!
# What a normal form may hold

Full-text queries and parameters are put together from the parts of a normal form, and nothing is
checked on the way. What holds them together is shown here for every normal form that is read from
a search string: an exact form is closed by its last character and not before
(`isEnclosed_exactForm`), in a form that matches parts of words no operator stands without its
backslash (`isGuarded_wildcardForm`), and the values of a filter are letters, which their column has
as capitals (`isCapitals_format`).
-/

namespace StockQuery

/-! ## Capital letters -/

namespace Text

theorem isUpper_iff {c : Char} : c.isUpper = true ↔ 65 ≤ c.toNat ∧ c.toNat ≤ 90 := by
  show decide ('A'.val ≤ c.val ∧ c.val ≤ 'Z'.val) = true ↔ _
  simp [UInt32.le_iff_toNat_le]

theorem isLower_iff {c : Char} : c.isLower = true ↔ 97 ≤ c.toNat ∧ c.toNat ≤ 122 := by
  show (decide ('a'.val ≤ c.val) && decide (c.val ≤ 'z'.val)) = true ↔ _
  simp [UInt32.le_iff_toNat_le]

/-- The case tables start behind the capital letters. -/
theorem upperChar_of_isUpper {c : Char} (h : c.isUpper = true) : upperChar c = [c] := by
  have hlast := (isUpper_iff.1 h).2
  have hruns : ∀ run ∈ upperRuns, 90 < run.first := by decide +kernel
  have hexpansions : ∀ pair ∈ upperExpansions, 90 < pair.1 := by decide +kernel
  have hrun : upperRuns.find? (·.covers c.toNat) = none := by
    rw [List.find?_eq_none]
    intro run hmem hcovers
    have hfirst := hruns run hmem
    simp only [CaseRun.covers, Bool.and_eq_true, decide_eq_true_eq] at hcovers
    omega
  have hexpansion : upperExpansions.find? (·.1 == c.toNat) = none := by
    rw [List.find?_eq_none]
    intro pair hmem heq
    have hfirst := hexpansions pair hmem
    have hsame : pair.1 = c.toNat := eq_of_beq heq
    omega
  rw [upperChar, recase, hrun, hexpansion]

/-- The small letters are the first run of the tables. -/
theorem upperChar_of_isLower {c : Char} (h : c.isLower = true) :
    upperChar c = [Char.ofNat (c.toNat - 32)] := by
  obtain ⟨hfirst, hlast⟩ := isLower_iff.1 h
  have hrun : upperRuns.find? (·.covers c.toNat) = some ⟨0x61, 0x7A, 1, -32⟩ := by
    rw [upperRuns, List.find?_cons_of_pos]
    simp [CaseRun.covers, Nat.mod_one, hfirst, hlast]
  have hmove : CaseRun.move ⟨0x61, 0x7A, 1, -32⟩ c.toNat = c.toNat - 32 := by
    show ((c.toNat : Int) + -32).toNat = c.toNat - 32
    omega
  rw [upperChar, recase, hrun]
  exact congrArg (fun n => [Char.ofNat n]) hmove

/-- The upper-case form of a letter is one capital letter. -/
theorem exists_upperChar {c : Char} (h : c.isAlpha = true) :
    ∃ d, upperChar c = [d] ∧ d.isUpper = true := by
  have hcase : c.isUpper = true ∨ c.isLower = true := by
    rw [← Bool.or_eq_true]
    exact h
  rcases hcase with hupper | hlower
  · exact ⟨c, upperChar_of_isUpper hupper, hupper⟩
  · obtain ⟨hfirst, hlast⟩ := isLower_iff.1 hlower
    have hvalid : (c.toNat - 32).isValidChar := by
      left
      omega
    have hcode : (Char.ofNat (c.toNat - 32)).toNat = c.toNat - 32 := by
      rw [Char.ofNat, dif_pos hvalid]
      rfl
    refine ⟨_, upperChar_of_isLower hlower, ?_⟩
    rw [isUpper_iff, hcode]
    omega

end Text

open Search

/-! ## The characters of a form -/

/-- The form is in braces, with nothing between them that a term cannot hold. -/
structure IsEnclosed (form : String) : Prop where
  /-- One brace is opened. -/
  count_open : form.toList.count '\x7b' = 1
  /-- One brace is closed. -/
  count_close : form.toList.count '\x7d' = 1
  /-- The braces stand at the ends, and between them is nothing that is removed from a term. -/
  inner : ∃ inner, form.toList = '\x7b' :: (inner ++ ['\x7d']) ∧
    ∀ c ∈ "\"'()[]\x7b\x7d,.*?_".toList, c ∉ inner

/-- No character of the form ends the word that it stands for, and operators are escaped. -/
structure IsGuarded (form : String) : Prop where
  /-- The form has no space, no brace, no bracket, no comma and no hyphen. -/
  unbroken : ∀ c ∈ " \x7b\x7d(),-".toList, c ∉ form.toList
  /-- An operator other than these has a backslash in front. -/
  escaped : ∀ before c after, form.toList = before ++ c :: after → c ∈ "&=;~|$!>".toList →
    before.getLast? = some '\\'

/-- The characters that sanitizing drops, spelled out. -/
theorem isForbidden_iff {c : Char} :
    isForbidden c = true ↔ c ∈ "\"'()[]\x7b\x7d,.*?_".toList := by
  simp [isForbidden]

theorem IsClean.notMem {value : String} (h : IsClean value) {c : Char}
    (hc : isForbidden c = true) : c ∉ value.toList := by
  intro hmem
  rw [h c hmem] at hc
  cases hc

theorem mem_sanitizeChars_iff {c : Char} {cs : List Char} :
    c ∈ sanitizeChars cs ↔ c ∈ cs ∧ isForbidden c = false := by
  simp [sanitizeChars]

theorem isClean_sanitize (s : String) : IsClean (sanitize s) := by
  intro c hc
  rw [toList_sanitize] at hc
  exact (mem_sanitizeChars_iff.1 hc).2

theorem notMem_sanitize {s : String} {c : Char} (h : c ∉ s.toList) :
    c ∉ (sanitize s).toList := by
  intro hc
  rw [toList_sanitize] at hc
  exact h (mem_sanitizeChars_iff.1 hc).1

/-- An exact form is closed by its last character and by no other one. -/
theorem isEnclosed_exactForm {value : String} (h : IsClean value) :
    IsEnclosed (exactForm value) := by
  have hopen : '\x7b' ∉ value.toList := h.notMem (by decide)
  have hclose : '\x7d' ∉ value.toList := h.notMem (by decide)
  have hcount : ∀ c, (exactForm value).toList.count c =
      ['\x7b', '\x7d'].count c + value.toList.count c := by
    intro c
    simp only [toList_exactForm, List.count_cons, List.count_append, List.count_nil]
    omega
  refine ⟨?_, ?_, value.toList, toList_exactForm value, ?_⟩
  · rw [hcount, List.count_eq_zero.2 hopen]
    decide
  · rw [hcount, List.count_eq_zero.2 hclose]
    decide
  · intro c hc
    exact h.notMem (isForbidden_iff.2 hc)

/-- Escaping adds backslashes and nothing else. -/
theorem mem_of_mem_escapeChars {c : Char} {cs : List Char} (h : c ∈ escapeChars cs) :
    c = '\\' ∨ c ∈ cs := by
  obtain ⟨d, hd, hc⟩ := List.mem_flatMap.1 h
  unfold escapeChar at hc
  split at hc
  · rcases List.mem_cons.1 hc with rfl | hc
    · exact .inl rfl
    · exact .inr (List.mem_singleton.1 hc ▸ hd)
  · exact .inr (List.mem_singleton.1 hc ▸ hd)

/-- In an escaped text every operator but the backslash has a backslash before it. -/
theorem getLast?_of_escapeChars_eq {cs tail before after : List Char} {c : Char}
    (h : escapeChars cs ++ tail = before ++ c :: after) (htail : c ∉ tail)
    (hc : isOperator c = true) (hne : c ≠ '\\') : before.getLast? = some '\\' := by
  induction cs generalizing before with
  | nil =>
    have hmem : c ∈ tail := by
      rw [show tail = before ++ c :: after from h]
      exact List.mem_append_right _ List.mem_cons_self
    exact absurd hmem htail
  | cons d cs ih =>
    have hcons : escapeChars (d :: cs) = escapeChar d ++ escapeChars cs := List.flatMap_cons
    rw [hcons, List.append_assoc] at h
    by_cases hd : isOperator d = true
    · -- a backslash, the operator, and then the rest
      rw [escapeChar, if_pos hd] at h
      cases before with
      | nil => exact absurd (List.cons.inj h).1.symm hne
      | cons x before =>
        obtain ⟨rfl, hrest⟩ := List.cons.inj h
        cases before with
        | nil => rfl
        | cons y before =>
          have hlast : before.getLast? = some '\\' := ih (List.cons.inj hrest).2
          rw [List.getLast?_cons_cons, List.getLast?_cons, hlast]
          rfl
    · rw [escapeChar, if_neg hd] at h
      cases before with
      | nil =>
        have hsame : d = c := (List.cons.inj h).1
        rw [hsame] at hd
        exact absurd hc hd
      | cons x before =>
        have hlast : before.getLast? = some '\\' := ih (List.cons.inj h).2
        rw [List.getLast?_cons, hlast]
        rfl

/-- The wildcard form of one word without hyphens is guarded, since its operators are escaped. -/
theorem isGuarded_wildcardForm {value : String} (h : IsClean value) (hspace : ' ' ∉ value.toList)
    (hhyphen : '-' ∉ value.toList) : IsGuarded (wildcardForm value) := by
  have hbreaks : ∀ c ∈ " \x7b\x7d(),-".toList,
      (c ≠ '%' ∧ c ≠ '\\') ∧ (c = ' ' ∨ c = '-' ∨ isForbidden c = true) := by
    simp [isForbidden]
  have hoperators : ∀ c ∈ "&=;~|$!>".toList, isOperator c = true ∧ c ≠ '\\' ∧ c ≠ '%' := by
    simp [isOperator]
  constructor
  · intro c hc hmem
    obtain ⟨⟨hpercent, hbackslash⟩, hcases⟩ := hbreaks c hc
    have hvalue : c ∉ value.toList := by
      rcases hcases with rfl | rfl | hforbidden
      · exact hspace
      · exact hhyphen
      · exact h.notMem hforbidden
    rw [toList_wildcardForm, List.mem_cons, List.mem_append, List.mem_singleton] at hmem
    rcases hmem with hfirst | hescaped | hlast
    · exact hpercent hfirst
    · rcases mem_of_mem_escapeChars hescaped with hescape | hin
      · exact hbackslash hescape
      · exact hvalue hin
    · exact hpercent hlast
  · intro before c after heq hc
    obtain ⟨hoperator, hbackslash, hpercent⟩ := hoperators c hc
    rw [toList_wildcardForm] at heq
    cases before with
    | nil => exact absurd (List.cons.inj heq).1.symm hpercent
    | cons x before =>
      have hlast : before.getLast? = some '\\' := getLast?_of_escapeChars_eq
        (List.cons.inj heq).2 (by simpa using hpercent) hoperator hbackslash
      rw [List.getLast?_cons, hlast]
      rfl

/-! ## Terms -/

/-- The alternatives of one term. Only a term that was not quoted is also looked for as a part of a
word, and its value is a single word. -/
inductive IsAlternatives : List String → Prop
  /-- A quoted term has its exact form only. -/
  | quoted {value : String} (h : IsClean value) : IsAlternatives [exactForm value]
  /-- A word has its exact form and then the one that matches parts of words. -/
  | word {value : String} (h : IsClean value) (hspace : ' ' ∉ value.toList)
      (hhyphen : '-' ∉ value.toList) : IsAlternatives [exactForm value, wildcardForm value]

/-- The exact form comes first and every other form is guarded. -/
theorem IsAlternatives.forms {alternatives : List String} (h : IsAlternatives alternatives) :
    ∃ exact more, alternatives = exact :: more ∧ IsEnclosed exact ∧
      ∀ form ∈ more, IsGuarded form := by
  cases h with
  | quoted h => exact ⟨_, [], rfl, isEnclosed_exactForm h, List.forall_mem_nil _⟩
  | word h hspace hhyphen =>
    refine ⟨_, _, rfl, isEnclosed_exactForm h, ?_⟩
    rw [List.forall_mem_singleton]
    exact isGuarded_wildcardForm h hspace hhyphen

/-- A term as the parser builds it has alternatives as a text query needs them. -/
theorem Term.WellFormed.isAlternatives {names : List String} {t : Term} (h : t.WellFormed names) :
    IsAlternatives t.alternatives := by
  have hclean := isClean_sanitize t.text
  unfold Term.alternatives
  by_cases hexpands : t.expands = true
  · -- an unquoted term is a word as a whole
    obtain ⟨hliteral, -⟩ : t.literal = false ∧ t.negated = false := by
      simpa [Term.expands] using hexpands
    have hword : IsWord t.text.toList := by
      rw [Term.WellFormed, if_neg (by simp [hliteral])] at h
      exact h.1
    rw [if_pos hexpands]
    refine .word hclean (notMem_sanitize fun hmem => ?_) (notMem_sanitize fun hmem => ?_)
    · exact (hword.2 _ hmem).2.1 rfl
    · exact (hword.2 _ hmem).2.2 rfl
  · rw [if_neg hexpands]
    exact .quoted hclean

/-! ## Filters -/

/-- One or more letters. -/
def IsLetters (value : String) : Prop := value ≠ "" ∧ ∀ c ∈ value.toList, c.isAlpha = true

/-- One or more capital letters. -/
def IsCapitals (value : String) : Prop := value ≠ "" ∧ ∀ c ∈ value.toList, c.isUpper = true

/-- What a plain or a negated value says. -/
def Criterion.value : Criterion → String
  | plain value => value
  | negated value => value

theorem Criterion.value_of_plain? {criterion : Criterion} {value : String}
    (h : criterion.plain? = some value) : criterion.value = value := by
  cases criterion with
  | plain v => exact Option.some.inj h
  | negated v => cases h

theorem Criterion.value_of_negated? {criterion : Criterion} {value : String}
    (h : criterion.negated? = some value) : criterion.value = value := by
  cases criterion with
  | plain v => cases h
  | negated v => exact Option.some.inj h

/-- The filter is registered, and it has values, plain or negated, which are letters. -/
structure IsFilterEntry (entry : String × List Criterion) : Prop where
  /-- The filter is registered. -/
  name_mem : entry.1 ∈ filterNames
  /-- It has a value. -/
  nonempty : entry.2 ≠ []
  /-- Its values are letters. -/
  letters : ∀ criterion ∈ entry.2, IsLetters criterion.value

/-- Every filter may stand in a normal form, and none stands there twice. -/
structure Filters.WellFormed (filters : Filters) : Prop where
  /-- Every filter may stand in a normal form. -/
  entries : ∀ entry ∈ filters, IsFilterEntry entry
  /-- No filter stands there twice. -/
  distinct : (Entries.keys filters).Nodup

theorem FilterItem.WellFormed.isFilterEntry {item : FilterItem} (h : item.WellFormed filterNames) :
    IsFilterEntry (item.name, item.criteria) := by
  refine ⟨h.name_mem, ?_, ?_⟩
  · intro hnil
    exact h.nonempty (List.map_eq_nil_iff.1 hnil)
  · intro criterion hcriterion
    obtain ⟨value, hvalue, rfl⟩ := List.mem_map.1 hcriterion
    obtain ⟨hne, hletters⟩ := h.letters value hvalue
    have hkept :
        ((if item.negated then Criterion.negated else .plain) value).value = value := by
      cases item.negated <;> rfl
    rw [hkept]
    refine ⟨?_, hletters⟩
    rintro rfl
    exact hne rfl

theorem Filters.WellFormed.add {filters : Filters} {item : FilterItem} (h : filters.WellFormed)
    (hitem : item.WellFormed filterNames) : (filters.add item).WellFormed := by
  have hnew := hitem.isFilterEntry
  refine ⟨Entries.forall_mem_amend h.entries hnew ?_, Entries.nodup_keys_amend _ _ h.distinct⟩
  intro values hvalues
  refine ⟨hvalues.name_mem, ?_, ?_⟩
  · intro hnil
    exact hvalues.nonempty (List.append_eq_nil_iff.1 hnil).1
  · intro criterion hcriterion
    rcases List.mem_append.1 hcriterion with hold | hadded
    · exact hvalues.letters criterion hold
    · exact hnew.letters criterion hadded

/-- Well-formedness of the filters is kept item by item. -/
theorem Filters.WellFormed.foldl_add {filters : Filters} {items : List FilterItem}
    (h : filters.WellFormed) (hitems : ∀ item ∈ items, item.WellFormed filterNames) :
    (items.foldl Filters.add filters).WellFormed := by
  induction items generalizing filters with
  | nil => exact h
  | cons item items ih =>
    obtain ⟨hitem, hrest⟩ := List.forall_mem_cons.1 hitems
    exact ih (h.add hitem) hrest

/-! ## Normal forms -/

/-- The normal form has the parts that a search string can give it. -/
structure NormalQuery.WellFormed (query : NormalQuery) : Prop where
  /-- Each term has the alternatives of a quoted term or of a word. -/
  terms : ∀ alternatives ∈ query.terms, IsAlternatives alternatives
  /-- A term to leave out is given in exact form. -/
  negations : ∀ form ∈ query.negations, ∃ value, IsClean value ∧ form = exactForm value
  /-- The filters may stand in a normal form. -/
  filters : query.filters.WellFormed

theorem Tree.mem_wanted {tree : Tree} {t : Term} :
    t ∈ tree.filterMap Node.wanted? ↔ .term t ∈ tree ∧ t.negated = false := by
  rw [List.mem_filterMap]
  constructor
  · rintro ⟨node, hnode, hwanted⟩
    cases node with
    | filter item => cases hwanted
    | term t' =>
      simp only [Node.wanted?, Option.ite_none_left_eq_some, Option.some.injEq] at hwanted
      obtain ⟨hnegated, rfl⟩ := hwanted
      exact ⟨hnode, Bool.eq_false_iff.2 hnegated⟩
  · rintro ⟨hnode, hnegated⟩
    exact ⟨_, hnode, by simp [Node.wanted?, hnegated]⟩

theorem Tree.mem_unwanted {tree : Tree} {t : Term} :
    t ∈ tree.filterMap Node.unwanted? ↔ .term t ∈ tree ∧ t.negated = true := by
  rw [List.mem_filterMap]
  constructor
  · rintro ⟨node, hnode, hunwanted⟩
    cases node with
    | filter item => cases hunwanted
    | term t' =>
      simp only [Node.unwanted?, Option.ite_none_right_eq_some, Option.some.injEq] at hunwanted
      obtain ⟨hnegated, rfl⟩ := hunwanted
      exact ⟨hnode, hnegated⟩
  · rintro ⟨hnode, hnegated⟩
    exact ⟨_, hnode, by simp [Node.unwanted?, hnegated]⟩

theorem Tree.mem_filters {tree : Tree} {item : FilterItem} :
    item ∈ tree.filterMap Node.filter? ↔ .filter item ∈ tree := by
  rw [List.mem_filterMap]
  constructor
  · rintro ⟨node, hnode, hfilter⟩
    cases node with
    | term t => cases hfilter
    | filter item' =>
      obtain rfl : item' = item := Option.some.inj hfilter
      exact hnode
  · intro hnode
    exact ⟨_, hnode, rfl⟩

/-- What normalization makes of well-formed nodes is well-formed. -/
theorem NormalQuery.wellFormed_ofTree {tree : Tree}
    (h : ∀ node ∈ tree, node.WellFormed filterNames) : (ofTree tree).WellFormed := by
  refine ⟨?_, ?_, ?_⟩
  · intro alternatives hmem
    obtain ⟨t, ht, rfl⟩ := List.mem_map.1 hmem
    exact Term.WellFormed.isAlternatives (h _ (Tree.mem_wanted.1 ht).1)
  · intro form hmem
    obtain ⟨t, -, rfl⟩ := List.mem_map.1 hmem
    exact ⟨sanitize t.text, isClean_sanitize t.text, rfl⟩
  · have hempty : Filters.WellFormed [] := ⟨List.forall_mem_nil _, List.nodup_nil⟩
    exact hempty.foldl_add fun item hitem => h _ (Tree.mem_filters.1 hitem)

/-! ## Parameters -/

/-- Letters are capitals once they are in upper case. -/
theorem isCapitals_upper {value : String} (h : IsLetters value) :
    IsCapitals (Text.upper value) := by
  obtain ⟨hne, hletters⟩ := h
  constructor
  · intro hempty
    have hnil : value.toList.flatMap Text.upperChar = [] := by
      rw [← Text.toList_upper, hempty]
      rfl
    cases hvalue : value.toList with
    | nil => exact hne (String.toList_inj.1 hvalue)
    | cons c cs =>
      have hc : c ∈ value.toList := by
        rw [hvalue]
        exact List.mem_cons_self
      obtain ⟨d, hd, -⟩ := Text.exists_upperChar (hletters c hc)
      have hnone := List.flatMap_eq_nil_iff.1 hnil c hc
      rw [hd] at hnone
      cases hnone
  · intro c hc
    rw [Text.toList_upper] at hc
    obtain ⟨letter, hletter, hmem⟩ := List.mem_flatMap.1 hc
    obtain ⟨d, hd, hupper⟩ := Text.exists_upperChar (hletters letter hletter)
    rw [hd, List.mem_singleton] at hmem
    exact hmem ▸ hupper

/-- The columns that may be restricted hold capitals. -/
theorem isCapitals_format {spec : ColumnFilter} (hspec : spec ∈ registry) {value : String}
    (h : IsLetters value) : IsCapitals (spec.format value) := by
  rw [registry, List.mem_singleton] at hspec
  rw [hspec]
  exact isCapitals_upper h

theorem Filters.WellFormed.isCapitals_of_mem {filters : Filters} (h : filters.WellFormed)
    {binding : Binding} (hbinding : binding ∈ Binding.ofFilters filters) :
    IsCapitals binding.value := by
  obtain ⟨entry, hentry, hmem⟩ := List.mem_flatMap.1 hbinding
  have hgood := h.entries entry hentry
  obtain ⟨spec, hspec, hfind⟩ := exists_findFilter hgood.name_mem
  have hcapitals : ∀ read : Criterion → Option String,
      (∀ criterion value, read criterion = some value → criterion.value = value) →
        ∀ value ∈ entry.2.filterMap read, IsCapitals (spec.format value) := by
    intro read hread value hvalue
    obtain ⟨criterion, hcriterion, hsome⟩ := List.mem_filterMap.1 hvalue
    rw [← hread criterion value hsome]
    exact isCapitals_format hspec (hgood.letters criterion hcriterion)
  unfold Binding.ofFilter at hmem
  rw [hfind] at hmem
  rcases List.mem_append.1 hmem with hplain | hnegated
  · obtain ⟨value, hvalue, rfl⟩ := List.mem_map.1 hplain
    exact hcapitals Criterion.plain? (fun _ _ => Criterion.value_of_plain?) value hvalue
  · obtain ⟨value, hvalue, rfl⟩ := List.mem_map.1 hnegated
    exact hcapitals Criterion.negated? (fun _ _ => Criterion.value_of_negated?) value hvalue

/-- Under every parameter style, a statement has the full-text query and the values of the filters
as its parameters. -/
theorem RankedQuery.params_of_compile {paramstyle text : String} {filters : Filters}
    {statement : Statement} (hnames : ∀ entry ∈ filters, entry.1 ∈ filterNames)
    (h : compile paramstyle ⟨some text, filters⟩ = .ok (some statement)) :
    statement.params = text :: (Binding.ofFilters filters).map Binding.value := by
  obtain ⟨conditions, hconditions, -, hparams⟩ := Conditions.exists_ofFiltersFrom 2 hnames
  rw [compile_eq, hconditions] at h
  cases hstyle : MarkStyle.ofName paramstyle with
  | error failure =>
    rw [hstyle] at h
    cases h
  | ok style =>
    rw [hstyle] at h
    obtain rfl : Statement.ofConditions style text conditions = statement :=
      Option.some.inj (Except.ok.inj h)
    exact congrArg (text :: ·) hparams

/-! ## Search strings -/

theorem NormalQuery.exists_tree {limit : Option Int} {raw : String} {query : NormalQuery}
    (h : parse limit raw = .ok query) :
    ∃ tree, Search.parse filterNames limit raw = .ok tree ∧ ofTree tree = query := by
  rw [parse] at h
  cases htree : Search.parse filterNames limit raw with
  | error rejection =>
    rw [htree] at h
    cases h
  | ok tree =>
    rw [htree] at h
    exact ⟨tree, rfl, Except.ok.inj h⟩

theorem NormalQuery.wellFormed_of_parse {limit : Option Int} {raw : String} {query : NormalQuery}
    (h : parse limit raw = .ok query) : query.WellFormed := by
  obtain ⟨tree, htree, rfl⟩ := exists_tree h
  exact wellFormed_ofTree (Search.wellFormed_of_parse isLetterName_of_mem_filterNames htree)

/-- A search string with terms has a statement under each relaxation and each parameter style. -/
theorem RankedQuery.exists_statement {limit : Option Int} {raw : String} {query : NormalQuery}
    (h : NormalQuery.parse limit raw = .ok query) (hterms : query.terms ≠ [])
    (relaxation : Relaxation) (style : MarkStyle) : ∃ ranked statement,
      parse limit relaxation.name raw = .ok ranked ∧
        ranked.compile style.name = .ok (some statement) := by
  have hgood := NormalQuery.wellFormed_of_parse h
  obtain ⟨tree, htree, rfl⟩ := NormalQuery.exists_tree h
  have hparse := parse_eq htree hterms
    (Relaxation.choices_alternatives relaxation (tree.filterMap Node.wanted?))
  obtain ⟨conditions, hcompile⟩ := exists_compile style _
    fun entry hentry => (hgood.filters.entries entry hentry).name_mem
  exact ⟨_, _, hparse, hcompile⟩

/-- A compiled search string has the full-text query as its first parameter, and all others are
capitals. -/
theorem RankedQuery.isCapitals_of_compile {limit : Option Int} {relaxation raw paramstyle : String}
    {ranked : RankedQuery} {statement : Statement}
    (hparse : parse limit relaxation raw = .ok ranked)
    (hcompile : ranked.compile paramstyle = .ok (some statement)) :
    ∃ text params, ranked.textQuery = some text ∧ statement.params = text :: params ∧
      ∀ param ∈ params, IsCapitals param := by
  obtain ⟨tree, htree, hfilters, -⟩ := exists_tree hparse
  have hgood : ranked.filters.WellFormed := by
    rw [hfilters]
    exact (NormalQuery.wellFormed_of_parse (NormalQuery.parse_of_tree htree)).filters
  obtain ⟨textQuery, filters⟩ := ranked
  cases textQuery with
  | none => cases hcompile
  | some text =>
    have hnames : ∀ entry ∈ filters, entry.1 ∈ filterNames :=
      fun entry hentry => (hgood.entries entry hentry).name_mem
    refine ⟨text, _, rfl, params_of_compile hnames hcompile, ?_⟩
    intro param hparam
    obtain ⟨binding, hbinding, rfl⟩ := List.mem_map.1 hparam
    exact hgood.isCapitals_of_mem hbinding

/-- Every search string that is accepted has a well-formed normal form: forms of clean values, and
registered filters with values of letters. So what is built from the parts keeps its shape. Each
exact form is closed by its last character and not before, operators are escaped in the forms that
match parts of words and nothing ends a word there, and behind the full-text query a statement has
capitals as parameters only. -/
theorem NormalQuery.parse_wellFormed {limit : Option Int} {raw : String} {query : NormalQuery}
    (h : parse limit raw = .ok query) :
    query.WellFormed ∧
    (∀ alternatives ∈ query.terms, ∃ exact more, alternatives = exact :: more ∧
      IsEnclosed exact ∧ ∀ form ∈ more, IsGuarded form) ∧
    (∀ form ∈ query.negations, IsEnclosed form) ∧
    (∀ (relaxation paramstyle : String) (ranked : RankedQuery) (statement : Statement),
      RankedQuery.parse limit relaxation raw = .ok ranked →
      ranked.compile paramstyle = .ok (some statement) →
        ∃ text params, ranked.textQuery = some text ∧ statement.params = text :: params ∧
          ∀ param ∈ params, IsCapitals param) ∧
    (query.terms ≠ [] → ∀ (relaxation : Relaxation) (style : MarkStyle), ∃ ranked statement,
      RankedQuery.parse limit relaxation.name raw = .ok ranked ∧
        ranked.compile style.name = .ok (some statement)) := by
  have hgood := wellFormed_of_parse h
  refine ⟨hgood, ?_, ?_, ?_, RankedQuery.exists_statement h⟩
  · intro alternatives hmem
    exact (hgood.terms alternatives hmem).forms
  · intro form hmem
    obtain ⟨value, hclean, rfl⟩ := hgood.negations form hmem
    exact isEnclosed_exactForm hclean
  · intro relaxation paramstyle ranked statement hparse hcompile
    exact RankedQuery.isCapitals_of_compile hparse hcompile

/-- Only the term that was not quoted gets a second form, with its operators escaped. The values of
a filter that is named twice are together. -/
theorem NormalQuery.parse_wellFormed_backslash :
    parse none "-\"(a-b\" x&y\\z. \"p q\" planner:ab,,C -planner:d" = .ok
      ⟨[["\x7bx&y\\z\x7d", "%x\\&y\\\\z%"], ["\x7bp q\x7d"]], ["\x7ba-b\x7d"],
        [("planner", [.plain "ab", .plain "C", .negated "d"])]⟩ ∧
    IsGuarded "%x\\&y\\\\z%" ∧ IsEnclosed "\x7ba-b\x7d" ∧
    ∃ ranked statement text params,
      RankedQuery.parse none "tiered" "-\"(a-b\" x&y\\z. \"p q\" planner:ab,,C -planner:d" =
        .ok ranked ∧
      ranked.compile "numeric" = .ok (some statement) ∧ statement.params = text :: params ∧
      ∀ param ∈ params, IsCapitals param := by
  have hparse : parse none "-\"(a-b\" x&y\\z. \"p q\" planner:ab,,C -planner:d" = .ok
      ⟨[["\x7bx&y\\z\x7d", "%x\\&y\\\\z%"], ["\x7bp q\x7d"]], ["\x7ba-b\x7d"],
        [("planner", [.plain "ab", .plain "C", .negated "d"])]⟩ := by
    decide +kernel
  obtain ⟨-, hterms, hnegations, hparams, hstatement⟩ := parse_wellFormed hparse
  obtain ⟨exact, more, hforms, -, hguarded⟩ := hterms _ List.mem_cons_self
  obtain ⟨-, rfl⟩ := List.cons.inj hforms
  obtain ⟨ranked, statement, hranked, hcompile⟩ :=
    hstatement (List.cons_ne_nil _ _) .tiered .numeric
  obtain ⟨text, params, -, heq, hcapitals⟩ := hparams _ _ ranked statement hranked hcompile
  exact ⟨hparse, hguarded _ (List.mem_singleton_self _), hnegations _ (List.mem_singleton_self _),
    ranked, statement, text, params, hranked, hcompile, heq, hcapitals⟩

end StockQuery
