import StockQuery.Proofs.Places
import Mathlib.Data.List.Chain

/-!
# Reading moves on

Filter names may be any strings, with colons, spaces or quotation marks in them, or empty. Then a
text can say several filters, and one that is tried may reach over spaces before it is given up for
a term. Reading moves on nevertheless. It goes in passes: `Pass` skips spaces, reads one item and
stops at a boundary behind it. A pass ends behind its start, so that passes cannot go on forever,
and `readItems` makes them until none is left or one fails (`exists_passes`). Told as offsets, the
items are spans with spaces between them (`Passes.exists_spans`), and an item takes two characters,
the last one excepted (`Passes.length_le`).
-/

namespace StockQuery.Search

/-! ## Passes -/

/-- From a place on, an item is read behind the spaces, and it ends at a boundary. -/
structure Pass (names : List String) (cs : List Char) (item : PlacedNode) (rest : List Char) :
    Prop where
  /-- The item starts behind the spaces. -/
  skip : skipSpaces cs = item.start
  /-- There is something left to read. -/
  nonempty : item.start ≠ []
  /-- The item is read. -/
  read : readItem names item.start = .ok (item.node, rest)
  /-- It ends at a boundary. -/
  boundary : atBoundary rest = true

/-- One pass after the other, each from the place where the one before ended. -/
inductive Passes (names : List String) : List Char → List PlacedNode → List Char → Prop
  /-- No pass is made. -/
  | nil (cs : List Char) : Passes names cs [] cs
  /-- One pass is made, and the others from where it ended. -/
  | cons {cs next rest : List Char} {item : PlacedNode} {items : List PlacedNode}
      (h : Pass names cs item next) (hmore : Passes names next items rest) :
      Passes names cs (item :: items) rest

/-- The next pass fails: there is no item, or one that ends where it may not. -/
inductive Fails (names : List String) (cs : List Char) : Stop → Prop
  /-- No item can be read. -/
  | item {start : List Char} {stop : Stop} (hskip : skipSpaces cs = start) (hne : start ≠ [])
      (h : readItem names start = .error stop) : Fails names cs stop
  /-- An item is read, and it ends where it may not. -/
  | boundary {start rest : List Char} {node : Node} (hskip : skipSpaces cs = start)
      (hne : start ≠ []) (h : readItem names start = .ok (node, rest))
      (hrest : atBoundary rest = false) : Fails names cs ⟨.missingSpace, rest⟩

/-- The offset at which an item of the text starts. -/
def PlacedNode.position (raw : List Char) (item : PlacedNode) : Nat :=
  raw.length - item.start.length

/-- The item is read from the first offset on, and it ends in front of the second one, which is a
boundary. -/
structure Covers (names : List String) (raw : List Char) (item : PlacedNode) (span : Nat × Nat) :
    Prop where
  /-- The item starts at the first offset. -/
  start_eq : item.start = raw.drop span.1
  /-- It is read from there, and the text from the second offset on is left. -/
  read : readItem names (raw.drop span.1) = .ok (item.node, raw.drop span.2)
  /-- It has a character at least. -/
  lt : span.1 < span.2
  /-- It ends within the text. -/
  le : span.2 ≤ raw.length
  /-- It ends at the end of the text or in front of a space. -/
  boundary : span.2 = raw.length ∨ raw[span.2]? = some ' '

/-- Every item covers its span, and there are only spaces between two spans, but one at least. -/
structure Spans (names : List String) (raw : List Char) (items : List PlacedNode)
    (spans : List (Nat × Nat)) : Prop where
  /-- Every item covers its span. -/
  covers : List.Forall₂ (Covers names raw) items spans
  /-- Between two spans there are spaces and nothing else, and there is one at least. -/
  apart : spans.IsChain fun span next =>
    span.2 < next.1 ∧ ∀ i, span.2 ≤ i → i < next.1 → raw[i]? = some ' '

variable {names : List String} {cs next rest : List Char} {item : PlacedNode}
  {items : List PlacedNode}

theorem Pass.length_lt (h : Pass names cs item rest) : rest.length < cs.length :=
  readItem_after_skipSpaces h.skip h.read

theorem not_forall_pass (place : Nat → List Char) :
    ¬ ∀ i, ∃ item, Pass names (place i) item (place (i + 1)) := by
  intro h
  have hlength : ∀ i, (place i).length + i ≤ (place 0).length := by
    intro i
    induction i with
    | zero => exact Nat.le_refl _
    | succ i ih =>
      obtain ⟨item, hpass⟩ := h i
      have hlt := hpass.length_lt
      omega
  have hover := hlength ((place 0).length + 1)
  omega

/-- Reading makes passes, and it comes to an end where only spaces are left or the next pass
fails. -/
theorem exists_passes (names : List String) (cs : List Char) :
    ∃ items rest, Passes names cs items rest ∧
      (skipSpaces rest = [] ∧ readItems names cs = .ok items ∨
        ∃ stop, Fails names rest stop ∧ readItems names cs = .error stop) := by
  -- one item and then the rest of the text, as the reader goes
  fun_induction readItems names cs with
  | case1 cs hskip => exact ⟨[], cs, .nil cs, .inl ⟨hskip, rfl⟩⟩
  | case2 cs c body hskip stop hitem =>
    have hfails : Fails names cs stop := .item hskip (List.cons_ne_nil c body) hitem
    exact ⟨[], cs, .nil cs, .inr ⟨stop, hfails, rfl⟩⟩
  | case3 cs c body hskip node rest hitem hboundary _ stop hread ih =>
    have hpass : Pass names cs ⟨node, c :: body⟩ rest :=
      ⟨hskip, List.cons_ne_nil c body, hitem, hboundary⟩
    obtain ⟨items, last, hpasses, ⟨-, hok⟩ | hfails⟩ := ih
    · rw [hread] at hok
      cases hok
    · rw [hread] at hfails
      exact ⟨_, last, .cons hpass hpasses, .inr hfails⟩
  | case4 cs c body hskip node rest hitem hboundary _ items hread ih =>
    have hpass : Pass names cs ⟨node, c :: body⟩ rest :=
      ⟨hskip, List.cons_ne_nil c body, hitem, hboundary⟩
    obtain ⟨others, last, hpasses, ⟨hdone, hok⟩ | ⟨stop, -, herror⟩⟩ := ih
    · obtain rfl : items = others := Except.ok.inj (hread.symm.trans hok)
      exact ⟨_, last, .cons hpass hpasses, .inl ⟨hdone, rfl⟩⟩
    · rw [hread] at herror
      cases herror
  | case5 cs c body hskip node rest hitem hboundary =>
    have hrest : atBoundary rest = false := Bool.eq_false_iff.mpr hboundary
    have hfails : Fails names cs ⟨.missingSpace, rest⟩ :=
      .boundary hskip (List.cons_ne_nil c body) hitem hrest
    exact ⟨[], cs, .nil cs, .inr ⟨_, hfails, rfl⟩⟩

/-- A pass from a boundary takes a space and an item, and only the first pass need not start at
one. -/
theorem Passes.length_le (h : Passes names cs items rest) :
    2 * items.length ≤ cs.length + 1 ∧ (atBoundary cs = true → 2 * items.length ≤ cs.length) := by
  induction h with
  | nil cs => simp
  | @cons cs next rest item items hpass _ ih =>
    obtain ⟨n, c, tok, rfl, hc, -, -⟩ := readItem_cut hpass.skip hpass.read
    have hmore := ih.2 hpass.boundary
    have hlength : (spaces n ++ (c :: tok ++ next)).length =
        n + (tok.length + 1) + next.length := by
      simp only [spaces, List.length_append, List.length_replicate, List.length_cons]
      omega
    rw [hlength, List.length_cons]
    refine ⟨by omega, ?_⟩
    intro hboundary
    have hpos := spaces_pos_of_atBoundary hc hboundary
    omega

/-! ## Spans -/

theorem getElem?_between {before after : List Char} {n i : Nat} (hle : before.length ≤ i)
    (hlt : i < (before ++ spaces n).length) : (before ++ spaces n ++ after)[i]? = some ' ' := by
  rw [List.getElem?_append_left hlt, List.getElem?_append_right hle, spaces,
    List.getElem?_replicate, if_pos]
  simp only [spaces, List.length_append, List.length_replicate] at hlt
  omega

/-- What is read in a pass covers its text, wherever this stands. -/
theorem Pass.covers (h : Pass names cs item rest) {tok : List Char} (hne : tok ≠ [])
    (hstart : item.start = tok ++ rest) (before : List Char) :
    Covers names (before ++ (tok ++ rest)) item (before.length, (before ++ tok).length) := by
  have hdrop : (before ++ (tok ++ rest)).drop before.length = item.start := by
    rw [List.drop_left, hstart]
  have hdrop_end : (before ++ (tok ++ rest)).drop (before ++ tok).length = rest := by
    rw [← List.append_assoc, List.drop_left]
  have hpos : 0 < tok.length := List.length_pos_iff.mpr hne
  refine ⟨hdrop.symm, ?_, ?_, ?_, ?_⟩
  · show readItem names ((before ++ (tok ++ rest)).drop before.length) =
      .ok (item.node, (before ++ (tok ++ rest)).drop (before ++ tok).length)
    rw [hdrop, hdrop_end]
    exact h.read
  · show before.length < (before ++ tok).length
    rw [List.length_append]
    omega
  · show (before ++ tok).length ≤ (before ++ (tok ++ rest)).length
    simp only [List.length_append]
    omega
  · rw [← List.append_assoc]
    rcases atBoundary_iff.mp h.boundary with rfl | ⟨more, rfl⟩
    · exact .inl (by rw [List.append_nil])
    · exact .inr (by rw [List.getElem?_append_right (Nat.le_refl _), Nat.sub_self]; rfl)

/-- Behind a text, passes read spans. The first one starts behind spaces only, and behind one at
least if the passes start at a boundary. -/
theorem Passes.exists_spans (h : Passes names cs items rest) (before : List Char) :
    ∃ spans, Spans names (before ++ cs) items spans ∧ ∀ span ∈ spans.head?,
      (atBoundary cs = true → before.length < span.1) ∧
      ∀ i, before.length ≤ i → i < span.1 → (before ++ cs)[i]? = some ' ' := by
  induction h generalizing before with
  | nil cs => exact ⟨[], ⟨.nil, .nil⟩, by simp⟩
  | @cons cs next rest item items hpass _ ih =>
    obtain ⟨n, c, tok, rfl, hc, hstart, -⟩ := readItem_cut hpass.skip hpass.read
    have htext : before ++ (spaces n ++ (c :: tok ++ next)) =
        before ++ spaces n ++ c :: tok ++ next := by simp only [List.append_assoc]
    -- the passes that follow have the item in front of them, too
    obtain ⟨spans, hspans, hfirst⟩ := ih (before ++ spaces n ++ c :: tok)
    have hcovers := hpass.covers (List.cons_ne_nil c tok) hstart (before ++ spaces n)
    rw [← List.append_assoc, ← htext] at hcovers
    rw [← htext] at hspans hfirst
    refine ⟨_ :: spans, ⟨.cons hcovers hspans.covers, ?_⟩, ?_⟩
    · rw [List.isChain_cons]
      refine ⟨?_, hspans.apart⟩
      intro span hspan
      obtain ⟨hlt, hbetween⟩ := hfirst span hspan
      exact ⟨hlt hpass.boundary, hbetween⟩
    · intro span hspan
      obtain rfl := Option.some.inj hspan
      constructor
      · intro hboundary
        have hpos := spaces_pos_of_atBoundary hc hboundary
        show before.length < (before ++ spaces n).length
        simp only [spaces, List.length_append, List.length_replicate]
        omega
      · intro i hle hlt
        rw [← List.append_assoc]
        exact getElem?_between hle hlt

variable {raw : List Char} {span : Nat × Nat} {spans : List (Nat × Nat)}

theorem Covers.position_eq (h : Covers names raw item span) : item.position raw = span.1 := by
  have hlt := h.lt
  have hle := h.le
  rw [PlacedNode.position, h.start_eq, List.length_drop]
  omega

theorem Spans.map_position (h : Spans names raw items spans) :
    items.map (PlacedNode.position raw) = spans.map Prod.fst := by
  have hcovers := h.covers
  clear h
  induction hcovers with
  | nil => rfl
  | cons hitem _ ih => rw [List.map_cons, List.map_cons, hitem.position_eq, ih]

theorem Spans.exists_covers (h : Spans names raw items spans) :
    (∀ item ∈ items, ∃ span, Covers names raw item span) ∧
      ∀ span ∈ spans, ∃ item, Covers names raw item span := by
  have hcovers := h.covers
  clear h
  induction hcovers with
  | nil => exact ⟨List.forall_mem_nil _, List.forall_mem_nil _⟩
  | cons hitem _ ih =>
    exact ⟨List.forall_mem_cons.mpr ⟨⟨_, hitem⟩, ih.1⟩, List.forall_mem_cons.mpr ⟨⟨_, hitem⟩, ih.2⟩⟩

theorem Spans.pairwise_position (h : Spans names raw items spans) :
    (items.map (PlacedNode.position raw)).Pairwise (· < ·) := by
  rw [h.map_position, ← List.isChain_iff_pairwise, List.isChain_map]
  refine h.apart.imp_of_mem_imp ?_
  intro span next hspan _ hapart
  obtain ⟨item, hitem⟩ := h.exists_covers.2 span hspan
  exact Nat.lt_trans hitem.lt hapart.1

theorem Spans.position_lt (h : Spans names raw items spans) :
    ∀ item ∈ items, item.position raw < raw.length := by
  intro item hmem
  obtain ⟨span, hitem⟩ := h.exists_covers.1 item hmem
  rw [hitem.position_eq]
  exact Nat.lt_of_lt_of_le hitem.lt hitem.le

/-! ## Search strings -/

/-- Whatever the names, reading moves on. Passes never go on forever, and reading makes them until
only spaces are left or the next pass fails. However many have been made, each item ends behind its
start at a boundary, there is nothing but spaces between two items and one space at least, the
positions of the items ascend and lie in the text, and the text has a character for every item and
every gap. So has a search string that is read as a tree. -/
theorem reading_moves_on (names : List String) (raw : String) :
    (¬ ∃ place : Nat → List Char, place 0 = raw.toList ∧
      ∀ i, ∃ item, Pass names (place i) item (place (i + 1))) ∧
    (∃ items rest, Passes names raw.toList items rest ∧
      (skipSpaces rest = [] ∧ readItems names raw.toList = .ok items ∨
        ∃ stop, Fails names rest stop ∧ readItems names raw.toList = .error stop)) ∧
    (∀ items rest, Passes names raw.toList items rest →
      (∃ spans, Spans names raw.toList items spans ∧
        items.map (PlacedNode.position raw.toList) = spans.map Prod.fst) ∧
      (items.map (PlacedNode.position raw.toList)).Pairwise (· < ·) ∧
      (∀ item ∈ items, item.position raw.toList < raw.length) ∧
      2 * items.length ≤ raw.length + 1) ∧
    ∀ limit tree, parse names limit raw = .ok tree → tree ≠ [] →
      2 * tree.length - 1 ≤ raw.length ∧ ∃ items rest, Passes names raw.toList items rest ∧
        skipSpaces rest = [] ∧ tree = items.map PlacedNode.node := by
  have hlength : ∀ items rest, Passes names raw.toList items rest →
      2 * items.length ≤ raw.length + 1 := by
    intro items rest h
    rw [← String.length_toList]
    exact h.length_le.1
  refine ⟨?_, exists_passes names raw.toList, ?_, ?_⟩
  · rintro ⟨place, -, h⟩
    exact not_forall_pass place h
  · intro items rest h
    obtain ⟨spans, hspans, -⟩ := h.exists_spans []
    refine ⟨⟨spans, hspans, hspans.map_position⟩, hspans.pairwise_position, ?_,
      hlength items rest h⟩
    rw [← String.length_toList]
    exact hspans.position_lt
  · intro limit tree htree hne
    rcases cases_of_parse_ok htree with ⟨-, rfl⟩ | ⟨items, hread, -, rfl⟩
    · exact absurd rfl hne
    obtain ⟨others, rest, hpasses, ⟨hdone, hok⟩ | ⟨stop, -, herror⟩⟩ :=
      exists_passes names raw.toList
    · obtain rfl : items = others := Except.ok.inj (hread.symm.trans hok)
      have hle := hlength items rest hpasses
      rw [List.length_map]
      exact ⟨by omega, items, rest, hpasses, hdone, rfl⟩
    · rw [hread] at herror
      cases herror

/-- The names are empty, or have a space, a colon, a quotation mark or a hyphen in them, and all of
them are read. -/
theorem reading_moves_on_any_names :
    parse ["", "a b", "x:y", "\"q", "-p"] none " a b:c x:y:d  \"q:e, :f --p:g" = .ok [
      .filter ⟨"a b", ["c"], false⟩, .filter ⟨"x:y", ["d"], false⟩, .filter ⟨"\"q", ["e"], false⟩,
      .filter ⟨"", ["f"], false⟩, .filter ⟨"-p", ["g"], true⟩] ∧
    2 * 5 - 1 ≤ " a b:c x:y:d  \"q:e, :f --p:g".length ∧
    ∃ items spans, items.map PlacedNode.node = [
        .filter ⟨"a b", ["c"], false⟩, .filter ⟨"x:y", ["d"], false⟩,
        .filter ⟨"\"q", ["e"], false⟩, .filter ⟨"", ["f"], false⟩,
        .filter ⟨"-p", ["g"], true⟩] ∧
      Spans ["", "a b", "x:y", "\"q", "-p"] " a b:c x:y:d  \"q:e, :f --p:g".toList items spans := by
  have hparse : parse ["", "a b", "x:y", "\"q", "-p"] none " a b:c x:y:d  \"q:e, :f --p:g" = .ok [
      .filter ⟨"a b", ["c"], false⟩, .filter ⟨"x:y", ["d"], false⟩, .filter ⟨"\"q", ["e"], false⟩,
      .filter ⟨"", ["f"], false⟩, .filter ⟨"-p", ["g"], true⟩] := by
    decide +kernel
  obtain ⟨-, -, hruns, htrees⟩ :=
    reading_moves_on ["", "a b", "x:y", "\"q", "-p"] " a b:c x:y:d  \"q:e, :f --p:g"
  obtain ⟨hle, items, rest, hpasses, -, htree⟩ := htrees none _ hparse (List.cons_ne_nil _ _)
  obtain ⟨⟨spans, hspans, -⟩, -⟩ := hruns items rest hpasses
  exact ⟨hparse, hle, items, spans, htree.symm, hspans⟩

end StockQuery.Search
