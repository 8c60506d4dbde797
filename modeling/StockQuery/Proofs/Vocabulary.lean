import StockQuery.Proofs.Juxtaposition
import StockQuery.Proofs.Spelling

/-!
# Filter names

The filter names say which words are filters, and that is all they do. A search string is cut into
items by its spaces and quotation marks, and it goes wrong at the same place whatever the filters
are (`parse_eq_error_iff`). An item that is a filter under one list and none under another is there
the word that it is written as (`Denotes.alike`). So names may be added, taken away, repeated and
put into another order, and one may be the start of another.
-/

namespace StockQuery.Search

/-- What one item means under two lists of filter names: the same under both, or a filter where the
list has its name and the word that the item is written as where it has not. -/
inductive Alike (names names' : List String) (tok : List Char) : Node → Node → Prop
  /-- The item means the same under both lists. -/
  | same (node : Node) : Alike names names' tok node node
  /-- The item is a filter under the first list only, and a word under the second. -/
  | lost {item : FilterItem} {word : List Char} (htok : tok = signed item.negated word)
      (hword : IsWord word) (hname : item.name ∈ names) (hnone : item.name ∉ names') :
      Alike names names' tok (.filter item) (.term ⟨String.ofList word, false, item.negated⟩)
  /-- The item is a word under the first list, and a filter under the second only. -/
  | gained {item : FilterItem} {word : List Char} (htok : tok = signed item.negated word)
      (hword : IsWord word) (hnone : item.name ∉ names) (hname : item.name ∈ names') :
      Alike names names' tok (.term ⟨String.ofList word, false, item.negated⟩) (.filter item)

variable {names names' : List String} {tok : List Char} {node node' : Node}

/-! ## One item -/

theorem Alike.symm (h : Alike names names' tok node node') : Alike names' names tok node' node := by
  cases h with
  | same node => exact .same node
  | lost htok hword hname hnone => exact .gained htok hword hnone hname
  | gained htok hword hnone hname => exact .lost htok hword hname hnone

/-- One text stands for at most one term. -/
theorem WritesTerm.unique {t t' : Term} (h : WritesTerm tok t) (h' : WritesTerm tok t') :
    t = t' := by
  have hread : readTerm (tok ++ []) = .ok (t, []) := readTerm_complete h rfl
  rw [readTerm_complete h' rfl] at hread
  exact (Prod.mk.inj (Except.ok.inj hread)).1.symm

/-- Whether a text stands for a filter depends on the names only through that filter's own name. -/
theorem WritesFilter.of_mem {item : FilterItem} (h : WritesFilter names tok item)
    (hname : item.name ∈ names') : WritesFilter names' tok item := by
  cases h with
  | mk negated _ hfirst hletters => exact .mk negated hname hfirst hletters

/-- One text stands for at most one filter, whichever names are known. -/
theorem WritesFilter.unique (hnames : ∀ name ∈ names, IsLetterName name)
    (hnames' : ∀ name ∈ names', IsLetterName name) {item item' : FilterItem}
    (h : WritesFilter names tok item) (h' : WritesFilter names' tok item') : item = item' := by
  -- under the names of both lists the item is both filters
  have hall : ∀ name ∈ names ++ names', IsLetterName name := by
    intro name hname
    rcases List.mem_append.1 hname with hname | hname
    · exact hnames name hname
    · exact hnames' name hname
  have hitem := h.of_mem (List.mem_append_left names' h.wellFormed.name_mem)
  have hitem' := h'.of_mem (List.mem_append_right names h'.wellFormed.name_mem)
  exact Node.filter.inj ((Denotes.filter hitem).eq hall (.filter hitem'))

theorem WritesFilter.alike (hnames : ∀ name ∈ names, IsLetterName name) {item : FilterItem}
    {t : Term} (h : WritesFilter names tok item) (ht : WritesTerm tok t)
    (hnone : ∀ item', ¬ WritesFilter names' tok item') :
    Alike names names' tok (.filter item) (.term t) := by
  obtain ⟨word, htok, hword, -⟩ := h.exists_word hnames
  have hwrites : WritesTerm tok ⟨String.ofList word, false, item.negated⟩ := by
    rw [htok]
    exact .word item.negated hword
  rw [ht.unique hwrites]
  exact .lost htok hword h.wellFormed.name_mem fun hname => hnone item (h.of_mem hname)

/-- Under two lists of names an item means the same, or a filter and the word that it is written
as. -/
theorem Denotes.alike (hnames : ∀ name ∈ names, IsLetterName name)
    (hnames' : ∀ name ∈ names', IsLetterName name) (h : Denotes names tok node)
    (h' : Denotes names' tok node') : Alike names names' tok node node' := by
  cases h with
  | filter h =>
    cases h' with
    | filter h' =>
      rw [h.unique hnames hnames' h']
      exact .same _
    | term ht hnone => exact h.alike hnames ht hnone
  | term ht hnone =>
    cases h' with
    | filter h' => exact (h'.alike hnames' ht hnone).symm
    | term ht' _ =>
      rw [ht.unique ht']
      exact .same _

theorem Denotes.of_mem_iff (hsame : ∀ name, name ∈ names ↔ name ∈ names')
    (h : Denotes names tok node) : Denotes names' tok node := by
  cases h with
  | filter h => exact .filter (h.of_mem ((hsame _).1 h.wellFormed.name_mem))
  | term ht hnone =>
    refine .term ht fun item hitem => hnone item (hitem.of_mem ?_)
    exact (hsame _).2 hitem.wellFormed.name_mem

/-! ## Search strings -/

/-- What is rejected under some names is rejected at the same place under any others. -/
theorem parse_error_of_error (hnames : ∀ name ∈ names, IsLetterName name)
    (hnames' : ∀ name ∈ names', IsLetterName name) {raw : String} {r : Rejection}
    (h : parse names none raw = .error r) : parse names' none raw = .error r := by
  obtain ⟨before, rest, htext, hhalts, hposition, hfragment⟩ := halts_of_parse_error hnames h
  rw [hhalts.parse_eq hnames' htext, ← hposition, ← hfragment]

/-- A search string is rejected under all lists of names alike. -/
theorem parse_eq_error_iff (hnames : ∀ name ∈ names, IsLetterName name)
    (hnames' : ∀ name ∈ names', IsLetterName name) {raw : String} {r : Rejection} :
    parse names none raw = .error r ↔ parse names' none raw = .error r :=
  ⟨parse_error_of_error hnames hnames', parse_error_of_error hnames' hnames⟩

/-- Under two lists of names an accepted search string is cut into the same items. -/
theorem exists_cut_of_parse (hnames : ∀ name ∈ names, IsLetterName name)
    (hnames' : ∀ name ∈ names', IsLetterName name) {raw : String} {tree tree' : Tree}
    (hblank : Text.allBlank raw = false) (h : parse names none raw = .ok tree)
    (h' : parse names' none raw = .ok tree') :
    ∃ l : Layout, l.Cuts raw.toList ∧ List.Forall₂ (Denotes names) l.tokens tree ∧
      List.Forall₂ (Denotes names') l.tokens tree' := by
  obtain ⟨l, hcuts, hmeans⟩ := (parse_eq_ok_iff_layout hnames hblank).1 h
  obtain ⟨l', hcuts', hmeans'⟩ := (parse_eq_ok_iff_layout hnames' hblank).1 h'
  obtain rfl : l = l' :=
    hcuts.toWellFormed.eq_of_text_eq hcuts'.toWellFormed (hcuts.text_eq.trans hcuts'.text_eq.symm)
  exact ⟨l, hcuts, hmeans, hmeans'⟩

theorem parse_eq_of_mem_iff (hnames : ∀ name ∈ names, IsLetterName name)
    (hsame : ∀ name, name ∈ names ↔ name ∈ names') (raw : String) :
    parse names none raw = parse names' none raw := by
  have hnames' : ∀ name ∈ names', IsLetterName name :=
    fun name hname => hnames name ((hsame name).2 hname)
  cases hblank : Text.allBlank raw with
  | true => rw [parse_of_allBlank names none hblank, parse_of_allBlank names' none hblank]
  | false =>
    cases h : parse names none raw with
    | error r => exact (parse_error_of_error hnames hnames' h).symm
    | ok tree =>
      obtain ⟨l, hcuts, hmeans⟩ := (parse_eq_ok_iff_layout hnames hblank).1 h
      have hmeans' : List.Forall₂ (Denotes names') l.tokens tree :=
        hmeans.imp fun _ _ hdenotes => hdenotes.of_mem_iff hsame
      exact ((parse_eq_ok_iff_layout hnames' hblank).2 ⟨l, hcuts, hmeans'⟩).symm

/-- The filter names decide which words are filters and nothing else. Under any two lists of names a
search string is rejected for the same reason at the same place, or it is accepted under both, and
then both trees have a node for each item of the string, and the two nodes of an item are equal or a
filter and the word that the item is written as. Lists of the same names read alike. -/
theorem parse_under_names (hnames : ∀ name ∈ names, IsLetterName name)
    (hnames' : ∀ name ∈ names', IsLetterName name) :
    (∀ (raw : String) (r : Rejection),
      parse names none raw = .error r ↔ parse names' none raw = .error r) ∧
    (∀ (raw : String) (tree tree' : Tree), parse names none raw = .ok tree →
      parse names' none raw = .ok tree' →
        (Text.allBlank raw = true ∧ tree = [] ∧ tree' = []) ∨
        ∃ l : Layout, l.Cuts raw.toList ∧ tree.length = l.tokens.length ∧
          tree'.length = l.tokens.length ∧
          ∀ (i : Nat) (tok : List Char) (node node' : Node), l.tokens[i]? = some tok →
            tree[i]? = some node → tree'[i]? = some node' → Alike names names' tok node node') ∧
    ((∀ name, name ∈ names ↔ name ∈ names') → ∀ raw : String,
      parse names none raw = parse names' none raw) := by
  refine ⟨fun raw r => parse_eq_error_iff hnames hnames', ?_, parse_eq_of_mem_iff hnames⟩
  intro raw tree tree' h h'
  cases hblank : Text.allBlank raw with
  | true =>
    rw [parse_of_allBlank _ none hblank] at h h'
    exact .inl ⟨rfl, (Except.ok.inj h).symm, (Except.ok.inj h').symm⟩
  | false =>
    obtain ⟨l, hcuts, hmeans, hmeans'⟩ := exists_cut_of_parse hnames hnames' hblank h h'
    refine .inr ⟨l, hcuts, hmeans.length_eq.symm, hmeans'.length_eq.symm, ?_⟩
    intro i tok node node' htok hnode hnode'
    obtain ⟨hi, rfl⟩ := List.getElem?_eq_some_iff.1 htok
    obtain ⟨hj, rfl⟩ := List.getElem?_eq_some_iff.1 hnode
    obtain ⟨hj', rfl⟩ := List.getElem?_eq_some_iff.1 hnode'
    have hdenotes : Denotes names l.tokens[i] tree[i] := hmeans.get hi hj
    have hdenotes' : Denotes names' l.tokens[i] tree'[i] := hmeans'.get hi hj'
    exact hdenotes.alike hnames hnames' hdenotes'

/-- One name is the start of another, and a quoted text is no filter under any list. -/
theorem parse_under_names_prefix :
    (∀ name ∈ ["plan", "planner"], IsLetterName name) ∧
    (∀ name ∈ ["planner", "planner"], IsLetterName name) ∧
    parse ["plan", "planner"] none "planner:a -plan:b,, \"plan:c\"" = .ok [
      .filter ⟨"planner", ["a"], false⟩, .filter ⟨"plan", ["b"], true⟩,
      .term ⟨"plan:c", true, false⟩] ∧
    parse ["planner", "planner"] none "planner:a -plan:b,, \"plan:c\"" = .ok [
      .filter ⟨"planner", ["a"], false⟩, .term ⟨"plan:b,,", false, true⟩,
      .term ⟨"plan:c", true, false⟩] ∧
    (∃ tok, Alike ["plan", "planner"] ["planner", "planner"] tok
      (.filter ⟨"plan", ["b"], true⟩) (.term ⟨"plan:b,,", false, true⟩)) ∧
    parse ["planner", "planner"] none "plan:b \"" = .error ⟨.openQuote, 7, "\""⟩ ∧
    ∀ raw, parse ["plan", "planner"] none raw = parse ["planner", "plan", "planner"] none raw := by
  have hnames : ∀ name ∈ ["plan", "planner"], IsLetterName name := by decide
  have hnames' : ∀ name ∈ ["planner", "planner"], IsLetterName name := by decide
  obtain ⟨herror, halike, -⟩ := parse_under_names hnames hnames'
  have hparse : parse ["plan", "planner"] none "planner:a -plan:b,, \"plan:c\"" = .ok [
      .filter ⟨"planner", ["a"], false⟩, .filter ⟨"plan", ["b"], true⟩,
      .term ⟨"plan:c", true, false⟩] := by
    decide +kernel
  have hparse' : parse ["planner", "planner"] none "planner:a -plan:b,, \"plan:c\"" = .ok [
      .filter ⟨"planner", ["a"], false⟩, .term ⟨"plan:b,,", false, true⟩,
      .term ⟨"plan:c", true, false⟩] := by
    decide +kernel
  have hsame : ∀ name, name ∈ ["plan", "planner"] ↔ name ∈ ["planner", "plan", "planner"] := by
    intro name
    simp only [List.mem_cons, List.not_mem_nil, or_false]
    tauto
  refine ⟨hnames, hnames', hparse, hparse', ?_, (herror _ _).1 (by decide +kernel),
    (parse_under_names hnames (by decide)).2.2 hsame⟩
  rcases halike _ _ _ hparse hparse' with ⟨-, hnil, -⟩ | ⟨l, -, hlength, -, hitems⟩
  · cases hnil
  · obtain ⟨tok, htok⟩ : ∃ tok, l.tokens[1]? = some tok :=
      ⟨_, List.getElem?_eq_getElem (by rw [← hlength]; decide)⟩
    exact ⟨tok, hitems 1 tok _ _ htok rfl rfl⟩

end StockQuery.Search
