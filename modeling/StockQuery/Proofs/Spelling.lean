import StockQuery.Proofs.Series

/-!
# Spelling search trees

Every item of a tree can be written down again, and the trees that are read are those whose items
are read back from what is written. A word that has the shape of a filter is left out: it would be
read as the filter. Of a filter the empty slots are gone, so a tree is spelled in one way although
it may be read from many texts.

Both directions are shown for one item, against the grammar (`Denotes.wellFormed` and
`Node.WellFormed.denotes`), and then for a tree by way of its layouts. A tree of words that hold
nothing but blanks is the one whose spelling is not read back; no such tree is read either.
-/

namespace StockQuery

open Search

/-! ## Spellings -/

/-- The term as it is written. -/
def Term.spelling (t : Term) : List Char :=
  signed t.negated (if t.literal then quoted t.text.toList else t.text.toList)

/-- The filter as it is written, its values between commas. -/
def FilterItem.spelling (f : FilterItem) : List Char :=
  signed f.negated (f.name.toList ++ ':' :: [','].intercalate (f.values.map String.toList))

/-- The item as it is written. -/
def Node.spelling : Node → List Char
  | .term t => t.spelling
  | .filter f => f.spelling

/-- The items of a tree with a space between any two. -/
def Tree.spelling (tree : Tree) : List Char := [' '].intercalate (tree.map Node.spelling)

/-- The layout is made of the spellings of the items, with a space between any two at least. -/
structure Search.Layout.Spells (l : Layout) (tree : Tree) : Prop where
  /-- The items of the layout are spelled as the nodes of the tree. -/
  tokens : l.tokens = tree.map Node.spelling
  /-- There is a space in front of each item but the first. -/
  apart : ∀ i ∈ l.items.tail, 0 < i.1

/-! ## Well-formed items -/

/-- The term can be read: a quoted text, or a word that is no filter as a whole. -/
def Term.WellFormed (names : List String) (t : Term) : Prop :=
  if t.literal then IsQuotable t.text.toList
  else IsWord t.text.toList ∧
    ∀ name values, ¬ WritesFilter names t.text.toList ⟨name, values, false⟩

/-- The filter can be read: it has one of the names, and at least one value, all of letters. -/
structure FilterItem.WellFormed (names : List String) (f : FilterItem) : Prop where
  /-- The filter has one of the names. -/
  name_mem : f.name ∈ names
  /-- It has a value. -/
  nonempty : f.values ≠ []
  /-- Each value is one or more letters. -/
  letters : ∀ value ∈ f.values, value.toList ≠ [] ∧ ∀ c ∈ value.toList, c.isAlpha = true

/-- The item can be read. -/
def Node.WellFormed (names : List String) : Node → Prop
  | .term t => t.WellFormed names
  | .filter f => f.WellFormed names

variable {names : List String} {tok : List Char} {node : Node} {tree : Tree} {l : Layout}

/-! ## One item -/

theorem Search.WritesTerm.spelling_eq {t : Term} (h : WritesTerm tok t) : t.spelling = tok := by
  cases h with
  | word negated _ => simp [Term.spelling]
  | quoted negated _ => simp [Term.spelling]

theorem Search.WritesFilter.wellFormed {item : FilterItem} (h : WritesFilter names tok item) :
    item.WellFormed names := by
  cases h with
  | @mk negated name first slots hname hfirst hletters =>
    have hmem : first ∈ (first :: slots).filter (!·.isEmpty) :=
      List.mem_filter.mpr ⟨List.mem_cons_self, by simpa using hfirst⟩
    refine ⟨hname, fun hnil => ?_, fun value hvalue => ?_⟩
    · rw [List.map_eq_nil_iff.mp hnil] at hmem
      cases hmem
    · obtain ⟨slot, hslot, rfl⟩ := List.mem_map.mp hvalue
      obtain ⟨hslot, hne⟩ := List.mem_filter.mp hslot
      rw [String.toList_ofList]
      exact ⟨by simpa using hne, hletters slot hslot⟩

/-- What an item means is well formed. -/
theorem Search.Denotes.wellFormed (h : Denotes names tok node) : node.WellFormed names := by
  cases h with
  | filter h => exact h.wellFormed
  | term h hf =>
    cases h with
    | @word negated text hword =>
      have hnone : ∀ name values, ¬ WritesFilter names text ⟨name, values, false⟩ := by
        intro name values hwrites
        cases hwrites with
        | mk _ hname hfirst hletters =>
          exact hf _ (.mk negated hname hfirst hletters)
      simpa [Node.WellFormed, Term.WellFormed] using And.intro hword hnone
    | quoted negated hquoted =>
      simpa [Node.WellFormed, Term.WellFormed] using hquoted

theorem FilterItem.WellFormed.writes {f : FilterItem} (h : f.WellFormed names) :
    WritesFilter names f.spelling f := by
  obtain ⟨name, values, negated⟩ := f
  obtain ⟨hname, hne, hletters⟩ := h
  obtain ⟨value, more, rfl⟩ := List.exists_cons_of_ne_nil hne
  have hslots : ∀ slot ∈ value.toList :: more.map String.toList,
      slot ≠ [] ∧ ∀ c ∈ slot, c.isAlpha = true := by
    intro slot hslot
    rw [← List.map_cons] at hslot
    obtain ⟨v, hv, rfl⟩ := List.mem_map.mp hslot
    exact hletters v hv
  have hkept : (value.toList :: more.map String.toList).filter (!·.isEmpty) =
      value.toList :: more.map String.toList := by
    rw [List.filter_eq_self]
    intro slot hslot
    simpa using (hslots slot hslot).1
  have hvalues : (value.toList :: more.map String.toList).map String.ofList = value :: more := by
    simp [Function.comp_def]
  have hwrites := WritesFilter.mk negated hname (hslots _ List.mem_cons_self).1
    fun slot hslot => (hslots slot hslot).2
  rw [hkept, hvalues] at hwrites
  rw [FilterItem.spelling, List.map_cons, Text.intercalate_cons]
  exact hwrites

/-- A well-formed item is what its spelling means. -/
theorem Node.WellFormed.denotes (hnames : ∀ name ∈ names, IsLetterName name)
    (h : node.WellFormed names) : Denotes names node.spelling node := by
  cases node with
  | filter f => exact .filter (FilterItem.WellFormed.writes h)
  | term t =>
    obtain ⟨text, literal, negated⟩ := t
    have hhyphen : ∀ {cs : List Char}, IsWord cs → cs.head? ≠ some '-' := by
      intro cs hword
      simpa using hword.head?_ne []
    cases literal with
    | true =>
      have hquoted : IsQuotable text.toList := h
      have hwrites : WritesTerm (signed negated (quoted text.toList)) ⟨text, true, negated⟩ := by
        simpa using WritesTerm.quoted negated hquoted
      refine .term hwrites fun item hitem => ?_
      -- a filter is written as a word, and no word holds a quotation mark
      obtain ⟨word, heq, hword, -⟩ := hitem.exists_word hnames
      have hsame := (signed_inj (by simp [quoted]) (hhyphen hword) heq).2
      exact (hword.2 '"' (hsame ▸ List.mem_cons_self)).1 rfl
    | false =>
      obtain ⟨hword, hnone⟩ : IsWord text.toList ∧
        ∀ name values, ¬ WritesFilter names text.toList ⟨name, values, false⟩ := h
      have hwrites : WritesTerm (signed negated text.toList) ⟨text, false, negated⟩ := by
        simpa using WritesTerm.word negated hword
      refine .term hwrites fun item hitem => ?_
      obtain ⟨word, heq, hword', hfilter⟩ := hitem.exists_word hnames
      obtain ⟨-, rfl⟩ := signed_inj (hhyphen hword) (hhyphen hword') heq
      exact hnone _ _ hfilter

/-! ## Texts that are not blank -/

/-- If an item is written with more than blanks, so it is spelled. -/
theorem Search.Denotes.exists_not_blank (h : Denotes names tok node)
    (hblank : ∃ c ∈ tok, Text.isBlank c = false) :
    ∃ c ∈ node.spelling, Text.isBlank c = false := by
  cases h with
  | filter _ =>
    have hcolon : Text.isBlank ':' = false := by decide
    refine ⟨':', (mem_signed (by decide)).mpr ?_, hcolon⟩
    exact List.mem_append_right _ List.mem_cons_self
  | term h _ =>
    rw [Node.spelling, h.spelling_eq]
    exact hblank

theorem Search.Series.exists_not_blank {cs : List Char} {items : List PlacedNode}
    (h : Series names cs items) (hblank : ∃ c ∈ cs, Text.isBlank c = false) :
    ∃ node ∈ items.map PlacedNode.node, ∃ c ∈ node.spelling, Text.isBlank c = false := by
  have hspaces : ∀ (n : Nat) (c : Char), c ∈ spaces n → Text.isBlank c = true := by
    intro n c hc
    rw [List.eq_of_mem_replicate hc]
    decide
  induction h with
  | done n =>
    obtain ⟨c, hc, hnot⟩ := hblank
    rw [hspaces n c hc] at hnot
    cases hnot
  | @item n tok rest node items hdenotes _ _ ih =>
    obtain ⟨c, hc, hnot⟩ := hblank
    rcases List.mem_append.mp hc with hc | hc
    · rw [hspaces n c hc] at hnot
      cases hnot
    · rcases List.mem_append.mp hc with hc | hc
      · exact ⟨node, List.mem_cons_self, hdenotes.exists_not_blank ⟨c, hc, hnot⟩⟩
      · obtain ⟨other, hother, hspelled⟩ := ih ⟨c, hc, hnot⟩
        exact ⟨other, List.mem_cons_of_mem _ hother, hspelled⟩

/-! ## Trees -/

/-- The items of a series are well formed. -/
theorem Search.Series.wellFormed {cs : List Char} {items : List PlacedNode}
    (h : Series names cs items) :
    ∀ node ∈ items.map PlacedNode.node, node.WellFormed names := by
  induction h with
  | done n => simp
  | item n hdenotes _ _ ih =>
    rw [List.map_cons, List.forall_mem_cons]
    exact ⟨hdenotes.wellFormed, ih⟩

/-- The items of a tree that is read are well formed. -/
theorem Search.wellFormed_of_parse (hnames : ∀ name ∈ names, IsLetterName name)
    {limit : Option Int} {raw : String} (h : parse names limit raw = .ok tree) :
    ∀ node ∈ tree, node.WellFormed names := by
  rcases cases_of_parse_ok h with ⟨-, rfl⟩ | ⟨items, hread, -, rfl⟩
  · simp
  · exact (readItems_sound hnames hread).wellFormed

namespace Search.Layout

theorem Spells.wellFormed (hnames : ∀ name ∈ names, IsLetterName name) (h : l.Spells tree)
    (htree : ∀ node ∈ tree, node.WellFormed names) : l.WellFormed := by
  refine ⟨fun i hi => ?_, h.apart⟩
  have hmem : i.2 ∈ l.tokens := List.mem_map_of_mem hi
  rw [h.tokens] at hmem
  obtain ⟨node, hnode, heq⟩ := List.mem_map.mp hmem
  rw [← heq]
  exact ((htree node hnode).denotes hnames).isItem hnames

theorem Spells.denotes (hnames : ∀ name ∈ names, IsLetterName name) (h : l.Spells tree)
    (htree : ∀ node ∈ tree, node.WellFormed names) :
    List.Forall₂ (Denotes names) l.tokens tree := by
  rw [h.tokens, List.forall₂_map_left_iff, List.forall₂_same]
  exact fun node hnode => (htree node hnode).denotes hnames

/-- A tree of well-formed items is read from what spells it, if this is more than blanks. -/
theorem Spells.parse_eq (hnames : ∀ name ∈ names, IsLetterName name) (h : l.Spells tree)
    (htree : ∀ node ∈ tree, node.WellFormed names)
    (hblank : Text.allBlank (String.ofList l.text) = false) :
    parse names none (String.ofList l.text) = .ok tree := by
  rw [parse_eq_ok_iff_layout hnames hblank]
  refine ⟨l, ⟨h.wellFormed hnames htree, fun hnil => ?_, by simp⟩, h.denotes hnames htree⟩
  apply toList_ne_spaces hblank l.trailing
  rw [String.toList_ofList, text, hnil]
  rfl

/-- What spells an item with more than blanks is more than blanks. -/
theorem Spells.not_allBlank (h : l.Spells tree)
    (hblank : ∃ node ∈ tree, ∃ c ∈ node.spelling, Text.isBlank c = false) :
    Text.allBlank (String.ofList l.text) = false := by
  obtain ⟨node, hnode, c, hc, hnot⟩ := hblank
  have hmem : node.spelling ∈ l.tokens := by
    rw [h.tokens]
    exact List.mem_map_of_mem hnode
  obtain ⟨i, hi, heq⟩ := List.mem_map.mp hmem
  rw [Text.allBlank, String.toList_ofList, List.all_eq_false]
  refine ⟨c, List.mem_append_left _ (List.mem_flatMap.mpr ⟨i, hi, ?_⟩), by simp [hnot]⟩
  exact List.mem_append_right _ (heq ▸ hc)

/-- A tree is spelled by the layout with one space between any two items. -/
theorem exists_spells (tree : Tree) : ∃ l : Layout, l.Spells tree ∧ l.text = tree.spelling := by
  cases tree with
  | nil => exact ⟨⟨[], 0⟩, ⟨rfl, by simp⟩, rfl⟩
  | cons node more =>
    refine ⟨⟨(0, node.spelling) :: more.map fun n => (1, n.spelling), 0⟩, ⟨?_, ?_⟩, ?_⟩
    · simp [tokens, Function.comp_def]
    · simp
    · rw [Tree.spelling, List.map_cons, Text.intercalate_cons, text_cons]
      simp [text, spaces, List.flatMap_map]

end Search.Layout

namespace Search

/-- Reading inverts spelling. The items of every tree that is read, under whatever limit, are well
formed. Every tree of well-formed items is read from each text that spells it and is not blank. A
tree that is read from a string that is not blank is read again, under the same limit, from each
text that spells it, such as the one with single spaces. -/
theorem parse_inverts_spelling (hnames : ∀ name ∈ names, IsLetterName name) :
    (∀ (limit : Option Int) (raw : String) (tree : Tree), parse names limit raw = .ok tree →
      ∀ node ∈ tree, node.WellFormed names) ∧
    (∀ (tree : Tree) (l : Layout), (∀ node ∈ tree, node.WellFormed names) → l.Spells tree →
      Text.allBlank (String.ofList l.text) = false →
        parse names none (String.ofList l.text) = .ok tree) ∧
    (∀ (limit : Option Int) (raw : String) (tree : Tree), Text.allBlank raw = false →
      parse names limit raw = .ok tree →
        parse names limit (String.ofList tree.spelling) = .ok tree ∧
        ∀ l : Layout, l.Spells tree → parse names limit (String.ofList l.text) = .ok tree) := by
  refine ⟨fun limit raw tree => wellFormed_of_parse hnames, ?_, ?_⟩
  · exact fun tree l htree hspells => hspells.parse_eq hnames htree
  · intro limit raw tree hblank hparse
    have hagain : ∀ l : Layout, l.Spells tree →
        parse names limit (String.ofList l.text) = .ok tree := by
      intro l hspells
      obtain ⟨items, hread, -, hnodes⟩ := (parse_eq_ok_iff hblank).mp hparse
      have hraw : ∃ c ∈ raw.toList, Text.isBlank c = false := by
        rw [Text.allBlank, List.all_eq_false] at hblank
        simpa using hblank
      have hspelled := (readItems_sound hnames hread).exists_not_blank hraw
      rw [← hnodes] at hspelled
      rw [parse_eq_ok_iff_of_limit]
      exact ⟨hspells.parse_eq hnames (wellFormed_of_parse hnames hparse)
        (hspells.not_allBlank hspelled), (parse_eq_ok_iff_of_limit.mp hparse).2⟩
    refine ⟨?_, hagain⟩
    obtain ⟨l, hspells, htext⟩ := Layout.exists_spells tree
    rw [← htext]
    exact hagain l hspells

/-- A filter is spelled without its empty slots, and a word that only starts like a filter is a word
again, also with a space behind it. -/
theorem parse_inverts_spelling_empty_slots :
    (∀ name ∈ filterNames, IsLetterName name) ∧
    Text.allBlank " -planner:ab,,c,   \"x y\" planner:1" = false ∧
    parse filterNames none " -planner:ab,,c,   \"x y\" planner:1" = .ok [
      .filter ⟨"planner", ["ab", "c"], true⟩, .term ⟨"x y", true, false⟩,
      .term ⟨"planner:1", false, false⟩] ∧
    Node.WellFormed filterNames (.term ⟨"planner:1", false, false⟩) ∧
    parse filterNames none "-planner:ab,c \"x y\" planner:1" = .ok [
      .filter ⟨"planner", ["ab", "c"], true⟩, .term ⟨"x y", true, false⟩,
      .term ⟨"planner:1", false, false⟩] ∧
    parse filterNames none "planner:1 " = .ok [.term ⟨"planner:1", false, false⟩] := by
  obtain ⟨himage, hspells, hagain⟩ := parse_inverts_spelling isLetterName_of_mem_filterNames
  have hblank : Text.allBlank " -planner:ab,,c,   \"x y\" planner:1" = false := by decide +kernel
  have hparse : parse filterNames none " -planner:ab,,c,   \"x y\" planner:1" = .ok [
      .filter ⟨"planner", ["ab", "c"], true⟩, .term ⟨"x y", true, false⟩,
      .term ⟨"planner:1", false, false⟩] := by
    decide +kernel
  have hword : Node.WellFormed filterNames (.term ⟨"planner:1", false, false⟩) :=
    himage none _ _ hparse _ (by simp)
  refine ⟨isLetterName_of_mem_filterNames, hblank, hparse, hword, ?_, ?_⟩
  · exact (hagain none _ _ hblank hparse).1
  · exact hspells [.term ⟨"planner:1", false, false⟩] ⟨[(0, "planner:1".toList)], 1⟩
      (by simpa using hword) ⟨rfl, by simp⟩ (by decide +kernel)

end Search

end StockQuery
