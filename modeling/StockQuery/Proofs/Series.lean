import StockQuery.Filter
import StockQuery.Proofs.Reading

/-!
# Series of items

A whole search string, item by item. `Series` tells the items of a text from left to right together
with the places where they start; reading a text gives exactly its series (`readItems_eq_ok_iff`).
The series of a text and its layout are two views of the same cut, so that a text is read as a tree
exactly if it can be cut into items that mean the nodes of the tree.
-/

namespace StockQuery.Search

/-- The text is a series of items: each stands after any number of spaces, ends at a boundary, and
is told with the text from its start on. -/
inductive Series (names : List String) : List Char → List PlacedNode → Prop
  /-- Nothing but spaces is left. -/
  | done (n : Nat) : Series names (spaces n) []
  /-- An item is next. -/
  | item (n : Nat) {tok rest : List Char} {node : Node} {items : List PlacedNode}
      (h : Denotes names tok node) (hboundary : atBoundary rest = true)
      (hrest : Series names rest items) :
      Series names (spaces n ++ (tok ++ rest)) (⟨node, tok ++ rest⟩ :: items)

/-! ## Spaces -/

theorem skipSpaces_spaces (n : Nat) : skipSpaces (spaces n) = [] := by
  simp [skipSpaces, spaces]

theorem skipSpaces_spaces_append (n : Nat) {c : Char} (hc : c ≠ ' ') (cs : List Char) :
    skipSpaces (spaces n ++ c :: cs) = c :: cs := by
  induction n with
  | zero => simp [skipSpaces, spaces, hc]
  | succ n ih => simpa [skipSpaces, spaces, List.replicate_succ] using ih

theorem skipSpaces_item {tok : List Char} (h : IsItem tok) (n : Nat) (rest : List Char) :
    skipSpaces (spaces n ++ (tok ++ rest)) = tok ++ rest := by
  obtain ⟨c, more, rfl, hc⟩ := h.head
  exact skipSpaces_spaces_append n hc (more ++ rest)

theorem eq_spaces_append_skipSpaces (cs : List Char) :
    ∃ n, cs = spaces n ++ skipSpaces cs := by
  have hsplit := List.takeWhile_append_dropWhile (p := (· == ' ')) (l := cs)
  refine ⟨(cs.takeWhile (· == ' ')).length, ?_⟩
  have hspaces : cs.takeWhile (· == ' ') = spaces (cs.takeWhile (· == ' ')).length := by
    rw [spaces, List.eq_replicate_iff]
    exact ⟨rfl, fun c hc => by simpa using List.mem_takeWhile_imp hc⟩
  rw [← hspaces, skipSpaces, hsplit]

theorem head_of_skipSpaces {c : Char} {cs body : List Char} (h : skipSpaces cs = c :: body) :
    c ≠ ' ' := by
  have hhead := List.head?_dropWhile_not (· == ' ') cs
  have hdrop : cs.dropWhile (· == ' ') = c :: body := h
  rw [hdrop] at hhead
  simpa using hhead

/-- At a boundary there is a space in front of what starts with none. -/
theorem spaces_pos_of_atBoundary {n : Nat} {c : Char} {more : List Char} (hc : c ≠ ' ')
    (h : atBoundary (spaces n ++ c :: more) = true) : 0 < n := by
  by_contra hn
  obtain rfl : n = 0 := Nat.eq_zero_of_not_pos hn
  exact hc (by simpa [spaces, atBoundary] using h)

theorem spaces_append_spaces (n m : Nat) : spaces n ++ spaces m = spaces (n + m) :=
  (List.replicate_add n m ' ').symm

/-- Spaces in front of a series belong to its first item. -/
theorem Series.spaces_append {names : List String} {cs : List Char} {items : List PlacedNode}
    (h : Series names cs items) (n : Nat) : Series names (spaces n ++ cs) items := by
  cases h with
  | done m =>
    rw [spaces_append_spaces]
    exact .done (n + m)
  | item m hdenotes hboundary hrest =>
    rw [← List.append_assoc, spaces_append_spaces]
    exact .item (n + m) hdenotes hboundary hrest

/-! ## Reading a series -/

theorem readItems_of_skipSpaces_nil (names : List String) {cs : List Char}
    (h : skipSpaces cs = []) : readItems names cs = .ok [] := by
  rw [readItems]
  split
  · rfl
  · next heq => rw [h] at heq; cases heq

/-- Behind the spaces an item is read, and after it the rest of the text. -/
theorem readItems_of_skipSpaces {names : List String} {cs start : List Char}
    (hskip : skipSpaces cs = start) (hne : start ≠ []) :
    readItems names cs = (readItem names start).bind fun read =>
      if atBoundary read.2 then (readItems names read.2).map (⟨read.1, start⟩ :: ·)
      else .error ⟨.missingSpace, read.2⟩ := by
  rw [readItems]
  split
  · next heq => exact absurd (hskip.symm.trans heq) hne
  · next c body heq =>
    obtain rfl := hskip.symm.trans heq
    split
    · next stop herror => rw [herror]; rfl
    · next node rest hok =>
      refine Eq.trans ?_ (congrArg (Except.bind · _) hok.symm)
      show _ = if atBoundary rest then _ else _
      by_cases hrest : atBoundary rest = true
      · rw [if_pos hrest, if_pos hrest]
        cases readItems names rest <;> rfl
      · rw [if_neg hrest, if_neg hrest]

/-- Reading goes on behind an item that ends at a boundary. -/
theorem readItems_of_readItem {names : List String} {cs start rest : List Char} {node : Node}
    (hskip : skipSpaces cs = start) (hne : start ≠ [])
    (hitem : readItem names start = .ok (node, rest)) (hrest : atBoundary rest = true) :
    readItems names cs = (readItems names rest).map (⟨node, start⟩ :: ·) := by
  rw [readItems_of_skipSpaces hskip hne, hitem]
  exact if_pos hrest

/-- A text is read as its series. -/
theorem readItems_complete {names : List String} (hnames : ∀ name ∈ names, IsLetterName name)
    {cs : List Char} {items : List PlacedNode} (h : Series names cs items) :
    readItems names cs = .ok items := by
  induction h with
  | done n => exact readItems_of_skipSpaces_nil names (skipSpaces_spaces n)
  | @item n tok rest node items hdenotes hboundary hrest ih =>
    have htok := hdenotes.isItem hnames
    have hne : tok ++ rest ≠ [] := by
      obtain ⟨c, more, rfl, -⟩ := htok.head
      simp
    rw [readItems_of_readItem (skipSpaces_item htok n rest) hne
      (readItem_complete hnames hdenotes hboundary) hboundary, ih]
    rfl

/-- What is read from a text is its series. -/
theorem readItems_sound {names : List String} (hnames : ∀ name ∈ names, IsLetterName name)
    {cs : List Char} {items : List PlacedNode} (h : readItems names cs = .ok items) :
    Series names cs items := by
  -- one item and then the rest of the text, as the reader goes
  fun_induction readItems names cs generalizing items with
  | case1 cs hskip =>
    obtain rfl := Except.ok.inj h
    obtain ⟨n, hn⟩ := eq_spaces_append_skipSpaces cs
    rw [hn, hskip, List.append_nil]
    exact .done n
  | case4 cs c body hskip node rest hitem hboundary _ more _ ih =>
    obtain rfl := Except.ok.inj h
    obtain ⟨n, hn⟩ := eq_spaces_append_skipSpaces cs
    obtain ⟨tok, htok, hdenotes⟩ := readItem_sound hnames hitem hboundary
    rw [hn, hskip, htok]
    exact .item n hdenotes hboundary (ih ‹_›)
  | case2 => cases h
  | case3 => cases h
  | case5 => cases h

theorem readItems_eq_ok_iff {names : List String} (hnames : ∀ name ∈ names, IsLetterName name)
    {cs : List Char} {items : List PlacedNode} :
    readItems names cs = .ok items ↔ Series names cs items :=
  ⟨readItems_sound hnames, readItems_complete hnames⟩

/-! ## Layouts -/

namespace Layout

theorem text_cons (n : Nat) (tok : List Char) (items : List (Nat × List Char)) (trailing : Nat) :
    text ⟨(n, tok) :: items, trailing⟩ = spaces n ++ (tok ++ text ⟨items, trailing⟩) := by
  simp [text]

theorem WellFormed.tail {i : Nat × List Char} {items : List (Nat × List Char)} {trailing : Nat}
    (h : WellFormed ⟨i :: items, trailing⟩) : WellFormed ⟨items, trailing⟩ :=
  ⟨fun j hj => h.items j (List.mem_cons_of_mem _ hj),
    fun j hj => h.apart j (List.mem_of_mem_tail hj)⟩

theorem atBoundary_text {items : List (Nat × List Char)} (h : ∀ i ∈ items, 0 < i.1)
    (trailing : Nat) : atBoundary (text ⟨items, trailing⟩) = true := by
  cases items with
  | nil => cases trailing <;> rfl
  | cons i items =>
    obtain ⟨n, tok⟩ := i
    obtain ⟨m, rfl⟩ := Nat.exists_eq_add_one_of_ne_zero (Nat.ne_of_gt (h (n, tok) (by simp)))
    rw [text_cons]
    rfl

/-- An item may be put in front of a text that starts at a boundary. -/
theorem WellFormed.cons {items : List (Nat × List Char)} {trailing : Nat}
    (h : WellFormed ⟨items, trailing⟩) {tok : List Char} (htok : IsItem tok) (n : Nat)
    (hboundary : atBoundary (text ⟨items, trailing⟩) = true) :
    WellFormed ⟨(n, tok) :: items, trailing⟩ := by
  refine ⟨?_, ?_⟩
  · intro i hi
    rcases List.mem_cons.1 hi with rfl | hi
    · exact htok
    · exact h.items i hi
  · show ∀ i ∈ items, 0 < i.1
    cases items with
    | nil => simp
    | cons j items =>
      obtain ⟨m, tok'⟩ := j
      intro i hi
      rcases List.mem_cons.1 hi with rfl | hi
      · -- without a space the boundary would be the first character of the next item
        show 0 < m
        obtain ⟨c, more, rfl, hc⟩ := (h.items (m, tok') (by simp)).head
        rw [text_cons] at hboundary
        exact spaces_pos_of_atBoundary hc hboundary
      · exact h.apart i hi

theorem WellFormed.skipSpaces_text {i : Nat × List Char} {items : List (Nat × List Char)}
    {trailing : Nat} (h : WellFormed ⟨i :: items, trailing⟩) :
    skipSpaces (text ⟨i :: items, trailing⟩) = i.2 ++ text ⟨items, trailing⟩ := by
  rw [text_cons]
  exact skipSpaces_item (h.items i (by simp)) i.1 _

theorem WellFormed.text_ne_spaces {i : Nat × List Char} {items : List (Nat × List Char)}
    {trailing : Nat} (h : WellFormed ⟨i :: items, trailing⟩) (n : Nat) :
    text ⟨i :: items, trailing⟩ ≠ spaces n := by
  intro heq
  have hskip := h.skipSpaces_text
  obtain ⟨c, more, htok, -⟩ := (h.items i (by simp)).head
  rw [heq, skipSpaces_spaces, htok] at hskip
  cases hskip

/-- A text is laid out in one way only. -/
theorem WellFormed.eq_of_text_eq {l l' : Layout} (h : l.WellFormed) (h' : l'.WellFormed)
    (heq : l.text = l'.text) : l = l' := by
  obtain ⟨items, trailing⟩ := l
  obtain ⟨items', trailing'⟩ := l'
  induction items generalizing items' with
  | nil =>
    cases items' with
    | nil =>
      have hlen := congrArg List.length heq
      simp only [text, spaces, List.flatMap_nil, List.nil_append, List.length_replicate] at hlen
      rw [hlen]
    | cons i' items' => exact absurd heq.symm (h'.text_ne_spaces trailing)
  | cons i items ih =>
    cases items' with
    | nil => exact absurd heq (h.text_ne_spaces trailing')
    | cons i' items' =>
      obtain ⟨n, tok⟩ := i
      obtain ⟨n', tok'⟩ := i'
      have hskip := congrArg skipSpaces heq
      rw [h.skipSpaces_text, h'.skipSpaces_text] at hskip
      obtain ⟨htok, hrest⟩ := IsItem.cut_unique (h.items (n, tok) (by simp))
        (h'.items (n', tok') (by simp)) hskip (atBoundary_text h.apart trailing)
        (atBoundary_text h'.apart trailing')
      have hmore := ih h.tail items' h'.tail hrest
      obtain ⟨rfl, rfl⟩ := Layout.mk.inj hmore
      simp only at htok
      subst htok
      have hlen := congrArg List.length heq
      simp only [text_cons, spaces, List.length_append, List.length_replicate] at hlen
      obtain rfl : n = n' := by omega
      rfl

end Layout

/-- A series has a layout, and its items mean what the items of the layout mean. -/
theorem Series.exists_layout {names : List String} (hnames : ∀ name ∈ names, IsLetterName name)
    {cs : List Char} {items : List PlacedNode} (h : Series names cs items) :
    ∃ l : Layout, l.WellFormed ∧ l.text = cs ∧
      List.Forall₂ (Denotes names) l.tokens (items.map PlacedNode.node) := by
  induction h with
  | done n => exact ⟨⟨[], n⟩, ⟨by simp, by simp⟩, rfl, .nil⟩
  | @item n tok rest node items hdenotes hboundary hrest ih =>
    obtain ⟨⟨more, trailing⟩, hwf, rfl, hmeans⟩ := ih
    refine ⟨⟨(n, tok) :: more, trailing⟩, hwf.cons (hdenotes.isItem hnames) n hboundary, ?_, ?_⟩
    · exact Layout.text_cons n tok more trailing
    · exact .cons hdenotes hmeans

/-- A layout whose items mean the nodes of a tree is a series of these nodes. -/
theorem Layout.WellFormed.exists_series {names : List String} {l : Layout} (h : l.WellFormed)
    {tree : Tree} (hmeans : List.Forall₂ (Denotes names) l.tokens tree) :
    ∃ items, Series names l.text items ∧ items.map PlacedNode.node = tree := by
  obtain ⟨items, trailing⟩ := l
  induction items generalizing tree with
  | nil =>
    cases hmeans
    exact ⟨[], .done trailing, rfl⟩
  | cons i items ih =>
    obtain ⟨n, tok⟩ := i
    cases hmeans with
    | @cons _ node _ nodes hdenotes hmeans =>
      obtain ⟨placed, hseries, rfl⟩ := ih h.tail hmeans
      refine ⟨⟨node, tok ++ Layout.text ⟨items, trailing⟩⟩ :: placed, ?_, rfl⟩
      rw [Layout.text_cons]
      exact .item n hdenotes (Layout.atBoundary_text h.apart trailing) hseries

/-- Whatever the names, the items of a layout mean something. -/
theorem Layout.WellFormed.exists_tree (names : List String) {l : Layout} (h : l.WellFormed) :
    ∃ tree, List.Forall₂ (Denotes names) l.tokens tree := by
  obtain ⟨items, trailing⟩ := l
  induction items with
  | nil => exact ⟨[], .nil⟩
  | cons i items ih =>
    obtain ⟨node, hnode⟩ := (h.items i (by simp)).denotes names
    obtain ⟨nodes, hnodes⟩ := ih h.tail
    exact ⟨node :: nodes, .cons hnode hnodes⟩

/-! ## Search strings -/

theorem isLetterName_of_mem_filterNames : ∀ name ∈ filterNames, IsLetterName name := by decide

/-- A string of blanks is the empty tree, whatever the limit. -/
theorem parse_of_allBlank (names : List String) (limit : Option Int) {raw : String}
    (h : Text.allBlank raw = true) : parse names limit raw = .ok [] := by
  simp [parse, h]

/-- Any other string is the tree of its items, if they keep to the limit. -/
theorem parse_eq_ok_iff {names : List String} {limit : Option Int} {raw : String} {tree : Tree}
    (h : Text.allBlank raw = false) :
    parse names limit raw = .ok tree ↔ ∃ items, readItems names raw.toList = .ok items ∧
      limit.bind (overflow · items) = none ∧ tree = items.map PlacedNode.node := by
  simp only [parse, h]
  cases readItems names raw.toList with
  | error stop => simp
  | ok items => cases hlimit : limit.bind (overflow · items) <;> simp [hlimit, eq_comm]

/-- A tree that is read is empty, the string being blank, or it is the tree of the items. -/
theorem cases_of_parse_ok {names : List String} {limit : Option Int} {raw : String} {tree : Tree}
    (h : parse names limit raw = .ok tree) :
    (Text.allBlank raw = true ∧ tree = []) ∨ ∃ items, readItems names raw.toList = .ok items ∧
      limit.bind (overflow · items) = none ∧ tree = items.map PlacedNode.node := by
  cases hblank : Text.allBlank raw with
  | true =>
    rw [parse_of_allBlank names limit hblank] at h
    exact .inl ⟨rfl, (Except.ok.inj h).symm⟩
  | false => exact .inr ((parse_eq_ok_iff hblank).1 h)

theorem overflow_eq_none_iff {limit : Int} {items : List PlacedNode} :
    overflow limit items = none ↔
      (items.map PlacedNode.node).countP Node.expands ≤ limit.toNat := by
  rw [overflow, Option.map_eq_none_iff, List.getElem?_eq_none_iff, List.countP_map,
    List.countP_eq_length_filter]
  rfl

/-- Under a limit those trees are read that keep to it. -/
theorem parse_eq_ok_iff_of_limit {names : List String} {limit : Option Int} {raw : String}
    {tree : Tree} : parse names limit raw = .ok tree ↔
      parse names none raw = .ok tree ∧ ∀ n ∈ limit, tree.countP Node.expands ≤ n.toNat := by
  cases hblank : Text.allBlank raw with
  | true =>
    rw [parse_of_allBlank names limit hblank, parse_of_allBlank names none hblank]
    refine ⟨fun h => ⟨h, fun n _ => ?_⟩, And.left⟩
    obtain rfl := Except.ok.inj h
    exact Nat.zero_le n.toNat
  | false =>
    rw [parse_eq_ok_iff hblank, parse_eq_ok_iff hblank]
    have hlimit : ∀ items : List PlacedNode, limit.bind (overflow · items) = none ↔
        ∀ n ∈ limit, (items.map PlacedNode.node).countP Node.expands ≤ n.toNat := by
      intro items
      cases limit with
      | none => simp
      | some n => simp [overflow_eq_none_iff]
    constructor
    · rintro ⟨items, hread, hkeeps, rfl⟩
      exact ⟨⟨items, hread, rfl, rfl⟩, (hlimit items).1 hkeeps⟩
    · rintro ⟨⟨items, hread, -, rfl⟩, hkeeps⟩
      exact ⟨items, hread, (hlimit items).2 hkeeps, rfl⟩

theorem toList_ne_spaces {raw : String} (h : Text.allBlank raw = false) (n : Nat) :
    raw.toList ≠ spaces n := by
  intro heq
  have hblank : Text.isBlank ' ' = true := by decide
  rw [Text.allBlank, heq, spaces] at h
  simp [hblank] at h

/-- A string that is not blank is read as a tree exactly if a layout of it means the tree. -/
theorem parse_eq_ok_iff_layout {names : List String} (hnames : ∀ name ∈ names, IsLetterName name)
    {raw : String} (h : Text.allBlank raw = false) {tree : Tree} :
    parse names none raw = .ok tree ↔
      ∃ l : Layout, l.Cuts raw.toList ∧ List.Forall₂ (Denotes names) l.tokens tree := by
  rw [parse_eq_ok_iff h]
  constructor
  · rintro ⟨items, hread, -, rfl⟩
    have hseries := (readItems_eq_ok_iff hnames).1 hread
    obtain ⟨l, hwf, htext, hmeans⟩ := hseries.exists_layout hnames
    refine ⟨l, ⟨hwf, ?_, htext⟩, hmeans⟩
    intro hnil
    apply toList_ne_spaces h l.trailing
    rw [← htext, Layout.text, hnil]
    rfl
  · rintro ⟨l, hcuts, hmeans⟩
    obtain ⟨items, hseries, rfl⟩ := hcuts.toWellFormed.exists_series hmeans
    rw [hcuts.text_eq] at hseries
    exact ⟨items, (readItems_eq_ok_iff hnames).2 hseries, rfl, rfl⟩

/-- Reading is exact. A string of blanks is the empty tree. Any other string is read as a tree
exactly if it can be cut into items with spaces between them that mean the nodes of the tree; there
is at most one way to cut it, and it is rejected exactly if there is none. Every item means one
node, and whatever writes a filter is an item. -/
theorem parse_reads_unique_layout {names : List String}
    (hnames : ∀ name ∈ names, IsLetterName name) (raw : String) :
    (Text.allBlank raw = true → parse names none raw = .ok []) ∧
    (Text.allBlank raw = false →
      (∀ tree, parse names none raw = .ok tree ↔
        ∃ l : Layout, l.Cuts raw.toList ∧ List.Forall₂ (Denotes names) l.tokens tree) ∧
      (∀ l l' : Layout, l.Cuts raw.toList → l'.Cuts raw.toList → l = l') ∧
      ((∃ rejection, parse names none raw = .error rejection) ↔
        ¬ ∃ l : Layout, l.Cuts raw.toList)) ∧
    (∀ tok, IsItem tok → ∃! node, Denotes names tok node) ∧
    (∀ tok item, WritesFilter names tok item → IsItem tok) := by
  refine ⟨parse_of_allBlank names none, fun hblank => ⟨?_, ?_, ?_⟩, ?_, ?_⟩
  · exact fun tree => parse_eq_ok_iff_layout hnames hblank
  · exact fun l l' h h' =>
      h.toWellFormed.eq_of_text_eq h'.toWellFormed (h.text_eq.trans h'.text_eq.symm)
  · constructor
    · rintro ⟨rejection, herror⟩ ⟨l, hcuts⟩
      obtain ⟨tree, hmeans⟩ := hcuts.toWellFormed.exists_tree names
      have hok := (parse_eq_ok_iff_layout hnames hblank).2 ⟨l, hcuts, hmeans⟩
      rw [herror] at hok
      cases hok
    · intro hnone
      cases hparse : parse names none raw with
      | error rejection => exact ⟨rejection, rfl⟩
      | ok tree =>
        obtain ⟨l, hcuts, -⟩ := (parse_eq_ok_iff_layout hnames hblank).1 hparse
        exact absurd ⟨l, hcuts⟩ hnone
  · intro tok htok
    obtain ⟨node, hnode⟩ := htok.denotes names
    exact ⟨node, hnode, fun other hother => hother.eq hnames hnode⟩
  · exact fun tok item h => h.isItem hnames

/-- A negated filter with empty slots, a quoted text that holds a space and the shape of a filter,
and a word that only starts like a filter. -/
theorem parse_reads_unique_layout_planner :
    (∀ name ∈ ["planner"], IsLetterName name) ∧
    Text.allBlank "  -planner:ab,,c, \"planner:x y\"  -planner:a1 " = false ∧
    ∃ l : Layout, l.Cuts "  -planner:ab,,c, \"planner:x y\"  -planner:a1 ".toList ∧
      List.Forall₂ (Denotes ["planner"]) l.tokens
        [.filter ⟨"planner", ["ab", "c"], true⟩, .term ⟨"planner:x y", true, false⟩,
          .term ⟨"planner:a1", false, true⟩] := by
  have hnames : ∀ name ∈ ["planner"], IsLetterName name := by
    simp [IsLetterName]
  have hblank : Text.allBlank "  -planner:ab,,c, \"planner:x y\"  -planner:a1 " = false := by
    decide +kernel
  have hread := parse_reads_unique_layout hnames "  -planner:ab,,c, \"planner:x y\"  -planner:a1 "
  exact ⟨hnames, hblank, ((hread.2.1 hblank).1 _).1 (by decide +kernel)⟩

end StockQuery.Search
