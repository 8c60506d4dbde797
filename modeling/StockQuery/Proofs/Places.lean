import StockQuery.Proofs.Series

/-!
# Where items start

Whatever the filter names are, a text that is read is laid out in items: each is written as its
node, starts with no space and ends at a boundary. `Lays` follows a layout and the items that were
read side by side, so that an item which starts with a certain rest of the text is told by the
offset at which its text stands in the layout (`Lays.exists_place`).

Names may be any strings here. One that holds a colon or a space can make two filters of one text,
so the layout need not be the only one, and it is the reader that tells which node a text is.
-/

namespace StockQuery.Search

/-- The text writes the item. -/
inductive Writes (names : List String) : List Char → Node → Prop
  /-- It writes the term. -/
  | term {tok : List Char} {t : Term} (h : WritesTerm tok t) : Writes names tok (.term t)
  /-- It writes the filter. -/
  | filter {tok : List Char} {item : FilterItem} (h : WritesFilter names tok item) :
      Writes names tok (.filter item)

/-- The offsets at which the items start, if there are `offset` characters in front. -/
def startsFrom (offset : Nat) : List (Nat × List Char) → List Nat
  | [] => []
  | (n, tok) :: items => (offset + n) :: startsFrom (offset + n + tok.length) items

/-- The offsets at which the items of the layout start. -/
def Layout.starts (l : Layout) : List Nat := startsFrom 0 l.items

/-- The layout cuts the text into texts that write the nodes of the tree, with a space between any
two at least. -/
structure Layout.Shows (names : List String) (l : Layout) (cs : List Char) (tree : Tree) :
    Prop where
  /-- The layout is the whole text. -/
  text_eq : l.text = cs
  /-- Each item of the layout writes a node of the tree. -/
  writes : List.Forall₂ (Writes names) l.tokens tree
  /-- There is a space in front of each item but the first. -/
  apart : ∀ i ∈ l.items.tail, 0 < i.1

/-- The items are read from the layout one by one, each with the text from its start on. -/
inductive Lays (names : List String) (trailing : Nat) :
    List (Nat × List Char) → List PlacedNode → Prop
  /-- There is no item. -/
  | nil : Lays names trailing [] []
  /-- An item that starts with no space ends where the next one has a space in front. -/
  | cons (n : Nat) {c : Char} {tok : List Char} {node : Node} {items : List (Nat × List Char)}
      {placed : List PlacedNode} (hc : c ≠ ' ') (h : Writes names (c :: tok) node)
      (hboundary : atBoundary (Layout.text ⟨items, trailing⟩) = true)
      (hrest : Lays names trailing items placed) :
      Lays names trailing ((n, c :: tok) :: items)
        (⟨node, c :: tok ++ Layout.text ⟨items, trailing⟩⟩ :: placed)

variable {names : List String} {cs : List Char} {trailing : Nat}
  {items : List (Nat × List Char)} {placed : List PlacedNode}

/-! ## From the reader to a layout -/

/-- What is read as an item is written as one. -/
theorem readItem_writes {node : Node} {rest : List Char}
    (h : readItem names cs = .ok (node, rest)) :
    ∃ tok, cs = tok ++ rest ∧ Writes names tok node := by
  unfold readItem at h
  split at h
  · next item more hitem =>
    obtain ⟨rfl, rfl⟩ := Prod.mk.inj (Except.ok.inj h)
    obtain ⟨tok, htok, hwrites⟩ := readFilter_sound (Option.filter_eq_some_iff.mp hitem).1
    exact ⟨tok, htok, .filter hwrites⟩
  · split at h
    · cases h
    · next term more hterm =>
      obtain ⟨rfl, rfl⟩ := Prod.mk.inj (Except.ok.inj h)
      obtain ⟨tok, htok, hwrites⟩ := readTerm_sound hterm
      exact ⟨tok, htok, .term hwrites⟩

/-- Behind the spaces, an item is written by a text that starts with no space. -/
theorem readItem_cut {start rest : List Char} {node : Node} (hskip : skipSpaces cs = start)
    (h : readItem names start = .ok (node, rest)) :
    ∃ (n : Nat) (c : Char) (tok : List Char), cs = spaces n ++ (c :: tok ++ rest) ∧ c ≠ ' ' ∧
      start = c :: tok ++ rest ∧ Writes names (c :: tok) node := by
  obtain ⟨n, hn⟩ := eq_spaces_append_skipSpaces cs
  obtain ⟨tok, htok, hwrites⟩ := readItem_writes h
  have hlength := readItem_length h
  cases tok with
  | nil =>
    rw [htok, List.nil_append] at hlength
    exact absurd hlength (Nat.lt_irrefl _)
  | cons c tok =>
    have hc : c ≠ ' ' := head_of_skipSpaces (hskip.trans htok)
    exact ⟨n, c, tok, by rw [hn, hskip, htok], hc, htok, hwrites⟩

theorem exists_lays_of_readItems (h : readItems names cs = .ok placed) :
    ∃ l : Layout, l.text = cs ∧ Lays names l.trailing l.items placed := by
  -- one item and then the rest of the text, as the reader goes
  fun_induction readItems names cs generalizing placed with
  | case1 cs hskip =>
    obtain rfl := Except.ok.inj h
    obtain ⟨n, hn⟩ := eq_spaces_append_skipSpaces cs
    refine ⟨⟨[], n⟩, ?_, .nil⟩
    rw [hn, hskip, List.append_nil]
    rfl
  | case4 cs c body hskip node rest hitem hboundary _ more _ ih =>
    obtain rfl := Except.ok.inj h
    obtain ⟨⟨items, trailing⟩, rfl, hlays⟩ := ih ‹_›
    obtain ⟨n, first, tok, hcs, hfirst, hstart, hwrites⟩ := readItem_cut hskip hitem
    refine ⟨⟨(n, first :: tok) :: items, trailing⟩, ?_, ?_⟩
    · rw [Layout.text_cons, hcs]
    · rw [hstart]
      exact .cons n hfirst hwrites hboundary hlays
  | case2 => cases h
  | case3 => cases h
  | case5 => cases h

/-! ## What a layout tells -/

theorem Lays.writes (h : Lays names trailing items placed) :
    List.Forall₂ (Writes names) (items.map Prod.snd) (placed.map PlacedNode.node) := by
  induction h with
  | nil => exact .nil
  | cons _ _ hwrites _ _ ih => exact .cons hwrites ih

/-- Without a space in front an item does not stand at a boundary. -/
theorem Lays.spaces_pos (h : Lays names trailing items placed)
    (hboundary : atBoundary (Layout.text ⟨items, trailing⟩) = true) : ∀ i ∈ items, 0 < i.1 := by
  induction h with
  | nil => simp
  | @cons n c tok node items placed hc _ hnext _ ih =>
    rw [List.forall_mem_cons]
    refine ⟨?_, ih hnext⟩
    rw [Layout.text_cons] at hboundary
    exact spaces_pos_of_atBoundary hc hboundary

theorem Lays.apart (h : Lays names trailing items placed) : ∀ i ∈ items.tail, 0 < i.1 := by
  cases h with
  | nil => simp
  | cons _ _ _ hboundary hrest => exact hrest.spaces_pos hboundary

/-- An item stands at the offset that the layout tells, with a boundary on either side. -/
theorem Lays.exists_place (h : Lays names trailing items placed) {k : Nat} {item : PlacedNode}
    (hitem : placed[k]? = some item) (offset : Nat) :
    ∃ (before : List Char) (c : Char) (tok after : List Char),
      Layout.text ⟨items, trailing⟩ = before ++ (c :: tok ++ after) ∧ c ≠ ' ' ∧
      item.start = c :: tok ++ after ∧ Writes names (c :: tok) item.node ∧
      (startsFrom offset items)[k]? = some (offset + before.length) ∧
      (before = [] ∨ before.getLast? = some ' ') ∧ atBoundary after = true := by
  induction h generalizing k offset with
  | nil => cases hitem
  | @cons n c tok node items placed hc hwrites hboundary hrest ih =>
    cases k with
    | zero =>
      obtain rfl := Option.some.inj hitem
      refine ⟨spaces n, c, tok, _, Layout.text_cons _ _ _ _, hc, rfl, hwrites, ?_, ?_, hboundary⟩
      · simp [startsFrom, spaces]
      · cases n with
        | zero => exact .inl rfl
        | succ n => exact .inr (by simp [spaces, List.getLast?_replicate])
    | succ k =>
      obtain ⟨before, c', tok', after, htext, hc', hstart, hwrites', hoffset, hspace, hafter⟩ :=
        ih hitem (offset + n + (c :: tok).length)
      refine ⟨spaces n ++ (c :: tok ++ before), c', tok', after, ?_, hc', hstart, hwrites', ?_, ?_,
        hafter⟩
      · rw [Layout.text_cons, htext]
        simp only [List.append_assoc, List.cons_append]
      · have hlength : offset + n + (c :: tok).length + before.length =
            offset + (spaces n ++ (c :: tok ++ before)).length := by
          simp only [spaces, List.length_append, List.length_replicate]
          omega
        rw [startsFrom, List.getElem?_cons_succ, hoffset, hlength]
      · rcases hspace with rfl | hspace
        · -- the item would follow the one before it without a space
          rw [htext] at hboundary
          exact absurd (by simpa [atBoundary] using hboundary) hc'
        · right
          rw [List.getLast?_append, List.getLast?_append, hspace]
          rfl

end StockQuery.Search
