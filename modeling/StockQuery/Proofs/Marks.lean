import Mathlib.Data.List.Forall2
import StockQuery.Proofs.SqlTokens
import StockQuery.Text.Split

/-!
# Marks and their values

The numbers of the marks and the list of values are made in different places: a mark gets its number
when the restriction it belongs to is written, and the values of a filter are regrouped, formatted
and collected beside the text. They line up nevertheless. What a run of pieces has to satisfy for
that is `Piece.Holds`, which is closed under all the ways in which a statement is put together.
-/

namespace StockQuery

/-! ## Values and their places -/

/-- A value together with the words in front of the bracket that its mark stands in. -/
structure Binding where
  /-- The words. -/
  word : String
  /-- The value. -/
  value : String
deriving DecidableEq

namespace Binding

/-- The values of a filter: its plain ones, then its negated ones. -/
def ofFilter (name : String) (values : List Criterion) : List Binding :=
  match findFilter name with
  | none => []
  | some spec =>
    (values.filterMap Criterion.plain?).map
        (fun value => ⟨spec.column ++ " IN ", spec.format value⟩) ++
      (values.filterMap Criterion.negated?).map
        (fun value => ⟨spec.column ++ " NOT IN ", spec.format value⟩)

/-- The values of one filter after the other. -/
def ofFilters (filters : Filters) : List Binding :=
  filters.flatMap fun entry => ofFilter entry.1 entry.2

/-- The values of a statement. -/
def ofQuery (text : String) (filters : Filters) : List Binding :=
  ⟨"contains", text⟩ :: ofFilters filters

/-- Whether the mark of a value may stand in a bracket with this text in front. -/
def Fits (binding : Binding) (group : List Char) : Prop := binding.word.toList <:+ group

end Binding

/-- Two texts, in the numeric style and in the style of question marks, that both have one mark for
each of the values, in their order and in their brackets. -/
structure LinesUp (first : Nat) (numeric qmark : List Char) (bindings : List Binding) : Prop where
  /-- The marks are numbered one by one. -/
  numbered : sqlMarks numeric =
    (List.range' first bindings.length).map fun number => (":" ++ toString number).toList
  /-- There is one question mark for each value. -/
  count_question : qmark.count '?' = bindings.length
  /-- The styles differ in how marks are written and in nothing else. -/
  unnumbered : sqlUnnumbered numeric = qmark
  /-- The marks stand where their values belong. -/
  numeric_groups : List.Forall₂ Binding.Fits bindings (sqlGroups numeric)
  /-- So do the question marks. -/
  qmark_groups : List.Forall₂ Binding.Fits bindings (sqlGroups qmark)

/-! ## Brackets -/

namespace SqlToken

/-- Text without brackets goes on with the text in front of the next bracket. -/
theorem groups_of_notMem {cs : List Char} (hopen : '(' ∉ cs) (hclose : ')' ∉ cs)
    (stack : List (List Char)) (lead : List Char) (rest : List SqlToken) :
    groups stack lead (cs.map char ++ rest) = groups stack (lead ++ cs) rest := by
  induction cs generalizing lead with
  | nil => simp
  | cons c cs ih =>
    rw [List.mem_cons, not_or] at hopen hclose
    rw [List.map_cons, List.cons_append, groups, if_neg (Ne.symm hopen.1),
      if_neg (Ne.symm hclose.1), ih hopen.2 hclose.2, List.append_assoc, List.singleton_append]

/-- How many brackets are open after a text, if every bracket that is closed in it was open. -/
def depthAfter : Nat → List Char → Option Nat
  | depth, [] => some depth
  | depth, c :: cs =>
    if c = '(' then depthAfter (depth + 1) cs
    else if c = ')' then
      if depth = 0 then none else depthAfter (depth - 1) cs
    else depthAfter depth cs

/-- After a text that closes what it opens, the same brackets are open as before. `inner` are the
brackets that the text itself has opened so far. -/
theorem groups_of_depthAfter {cs : List Char} (inner : List (List Char))
    (h : depthAfter inner.length cs = some 0) (stack : List (List Char)) (lead : List Char)
    (rest : List SqlToken) :
    ∃ lead', groups (inner ++ stack) lead (cs.map char ++ rest) = groups stack lead' rest := by
  induction cs generalizing inner lead with
  | nil =>
    rw [depthAfter, Option.some.injEq, List.length_eq_zero_iff] at h
    exact ⟨lead, by rw [h]; rfl⟩
  | cons c cs ih =>
    rw [depthAfter] at h
    rw [List.map_cons, List.cons_append, groups]
    by_cases hopen : c = '('
    · rw [if_pos hopen] at h ⊢
      exact ih (lead :: inner) h []
    · rw [if_neg hopen] at h ⊢
      by_cases hclose : c = ')'
      · rw [if_pos hclose] at h ⊢
        cases inner with
        | nil => simp at h
        | cons group inner =>
          rw [List.length_cons, if_neg (Nat.succ_ne_zero _), Nat.add_sub_cancel] at h
          exact ih inner h []
      · rw [if_neg hclose] at h ⊢
        exact ih inner h (lead ++ [c])

/-- The brackets that are open after a text are open in front of what comes behind it. -/
theorem depthAfter_append {cs : List Char} {depth after : Nat}
    (h : depthAfter depth cs = some after) (ds : List Char) :
    depthAfter depth (cs ++ ds) = depthAfter after ds := by
  induction cs generalizing depth with
  | nil =>
    rw [depthAfter, Option.some.injEq] at h
    rw [List.nil_append, h]
  | cons c cs ih =>
    rw [depthAfter] at h
    rw [List.cons_append, depthAfter]
    by_cases hopen : c = '('
    · rw [if_pos hopen] at h ⊢
      exact ih h
    · rw [if_neg hopen] at h ⊢
      by_cases hclose : c = ')'
      · rw [if_pos hclose] at h ⊢
        by_cases hzero : depth = 0
        · simp [hzero] at h
        · rw [if_neg hzero] at h ⊢
          exact ih h
      · rw [if_neg hclose] at h ⊢
        exact ih h

end SqlToken

/-- Text that adds no mark and closes the brackets that it opens. -/
structure IsInert (text : String) : Prop where
  /-- No mark can begin in it. -/
  plain : IsPlain text
  /-- Each bracket that is opened in it is closed in it, and no other. -/
  depth : SqlToken.depthAfter 0 text.toList = some 0

namespace IsInert

/-- A text of known characters is inert if these are. -/
theorem ofList {cs : List Char}
    (h : ':' ∉ cs ∧ '?' ∉ cs ∧ SqlToken.depthAfter 0 cs = some 0) : IsInert (String.ofList cs) := by
  obtain ⟨hcolon, hquestion, hdepth⟩ := h
  constructor
  · rw [IsPlain, String.toList_ofList]
    exact ⟨hcolon, hquestion⟩
  · rw [String.toList_ofList]
    exact hdepth

/-- Inert texts make up an inert text. -/
theorem append {s t : String} (hs : IsInert s) (ht : IsInert t) : IsInert (s ++ t) where
  plain := hs.plain.append ht.plain
  depth := by
    rw [String.toList_append, SqlToken.depthAfter_append hs.depth]
    exact ht.depth

/-- Inert texts with an inert text between any two make up an inert text. -/
theorem intercalate {sep : String} (hsep : IsInert sep) {texts : List String}
    (h : ∀ text ∈ texts, IsInert text) : IsInert (sep.intercalate texts) := by
  induction texts with
  | nil =>
    rw [String.intercalate_nil]
    exact ofList (by decide)
  | cons text texts ih =>
    obtain ⟨htext, htexts⟩ := List.forall_mem_cons.mp h
    cases texts with
    | nil =>
      rw [String.intercalate_singleton]
      exact htext
    | cons next texts =>
      rw [String.intercalate_cons_cons]
      exact (htext.append hsep).append (ih htexts)

end IsInert

/-- Text that adds no mark and has no brackets at all. -/
def IsBare (text : String) : Prop := IsPlain text ∧ '(' ∉ text.toList ∧ ')' ∉ text.toList

/-- It can be decided whether a text is bare. -/
instance (text : String) : Decidable (IsBare text) := inferInstanceAs (Decidable (_ ∧ _))

/-- Bare texts make up a bare text. -/
theorem IsBare.append {s t : String} (hs : IsBare s) (ht : IsBare t) : IsBare (s ++ t) := by
  obtain ⟨hplain, hopen, hclose⟩ := hs
  obtain ⟨hplain', hopen', hclose'⟩ := ht
  refine ⟨hplain.append hplain', ?_, ?_⟩
  · rw [String.toList_append, List.mem_append]
    exact fun h => h.elim hopen hopen'
  · rw [String.toList_append, List.mem_append]
    exact fun h => h.elim hclose hclose'

/-! ## Pieces that hold values -/

namespace Piece

/-- Pieces that read as they were written, have their marks numbered from `first`, and close what
they open, with the mark of each value in a bracket where it belongs. -/
structure Holds (first : Nat) (ps : List Piece) (bindings : List Binding) : Prop where
  /-- The pieces read as they were written, whatever comes behind them. -/
  legible : Legible ps
  /-- The marks are numbered one by one from `first` on. -/
  numbers : ps.filterMap number? = List.range' first bindings.length
  /-- Each mark stands in a bracket that its value fits, and the brackets open behind the pieces are
  those that were open in front of them. -/
  groups : ∀ style stack lead rest, ∃ found lead',
    SqlToken.groups stack lead (ps.flatMap (tokens style) ++ rest) =
      found ++ SqlToken.groups stack lead' rest ∧
    List.Forall₂ Binding.Fits bindings found

/-- No pieces hold no values. -/
theorem Holds.nil (first : Nat) : Holds first [] [] where
  legible := .nil
  numbers := rfl
  groups := fun _ _ lead _ => ⟨[], lead, rfl, .nil⟩

/-- Pieces that hold values may be followed by pieces whose numbers go on from there. -/
theorem Holds.append {first : Nat} {ps qs : List Piece} {bs cs : List Binding}
    (hp : Holds first ps bs) (hq : Holds (first + bs.length) qs cs) :
    Holds first (ps ++ qs) (bs ++ cs) where
  legible := hp.legible.append hq.legible
  numbers := by
    rw [List.filterMap_append, hp.numbers, hq.numbers, List.length_append, List.range'_append_1]
  groups := by
    intro style stack lead rest
    obtain ⟨found, lead', hfound, hfits⟩ := hp.groups style stack lead
      (qs.flatMap (tokens style) ++ rest)
    obtain ⟨more, lead'', hmore, hmoreFits⟩ := hq.groups style stack lead' rest
    refine ⟨found ++ more, lead'', ?_, List.rel_append hfits hmoreFits⟩
    rw [List.flatMap_append, List.append_assoc, hfound, hmore, List.append_assoc]

/-- An inert text holds no values. -/
theorem Holds.fixed (first : Nat) {text : String} (h : IsInert text) :
    Holds first [.fixed text] [] where
  legible := legible_fixed h.plain
  numbers := rfl
  groups := by
    intro style stack lead rest
    obtain ⟨lead', hlead⟩ := SqlToken.groups_of_depthAfter [] h.depth stack lead rest
    refine ⟨[], lead', ?_, .nil⟩
    rw [List.flatMap_cons, List.flatMap_nil, List.append_nil]
    exact hlead

/-- Brackets around pieces change nothing for the marks inside them. -/
theorem Holds.enclose {first : Nat} {ps : List Piece} {bs : List Binding} (h : Holds first ps bs) :
    Holds first (.fixed "(" :: ps ++ [.fixed ")"]) bs where
  legible := by
    have hopen : Legible [.fixed "("] := legible_fixed (by decide)
    have hclose : Legible [.fixed ")"] := legible_fixed (by decide)
    exact (hopen.append h.legible).append hclose
  numbers := by
    rw [List.filterMap_append, List.filterMap_cons_none rfl, h.numbers]
    exact List.append_nil _
  groups := by
    intro style stack lead rest
    have hopen : tokens style (.fixed "(") = [.char '('] := rfl
    have hclose : tokens style (.fixed ")") = [.char ')'] := rfl
    obtain ⟨found, lead', hfound, hfits⟩ := h.groups style (lead :: stack) [] (.char ')' :: rest)
    refine ⟨found, [], ?_, hfits⟩
    rw [List.flatMap_append, List.flatMap_cons, List.flatMap_cons, List.flatMap_nil, hopen, hclose,
      List.append_nil, List.append_assoc, List.append_assoc, List.singleton_append,
      List.singleton_append, SqlToken.groups, if_pos rfl, hfound, SqlToken.groups]
    rfl

/-! ### Conditions one after the other -/

/-- Conditions that hold the values one after the other. -/
inductive HoldInTurn : Nat → List (List Piece) → List Binding → Prop
  /-- There are no conditions. -/
  | nil (first : Nat) : HoldInTurn first [] []
  /-- The numbers go on after a condition. -/
  | cons {first : Nat} {ps : List Piece} {conditions : List (List Piece)} {bs cs : List Binding}
      (head : Holds first ps bs) (tail : HoldInTurn (first + bs.length) conditions cs) :
      HoldInTurn first (ps :: conditions) (bs ++ cs)

/-- Conditions may be followed by conditions whose numbers go on from there. -/
theorem HoldInTurn.append {first : Nat} {conditions more : List (List Piece)} {bs cs : List Binding}
    (h : HoldInTurn first conditions bs) (hmore : HoldInTurn (first + bs.length) more cs) :
    HoldInTurn first (conditions ++ more) (bs ++ cs) := by
  induction h with
  | nil first => exact hmore
  | @cons first ps conditions bs bs' head _ ih =>
    rw [List.length_append, ← Nat.add_assoc] at hmore
    rw [List.cons_append, List.append_assoc]
    exact .cons head (ih hmore)

/-- Conditions may be written with the same text in front of each. -/
theorem HoldInTurn.separated {first : Nat} {conditions : List (List Piece)} {bs : List Binding}
    (h : HoldInTurn first conditions bs) {sep : List Piece} (hsep : ∀ n, Holds n sep []) :
    Holds first (conditions.flatMap (sep ++ ·)) bs := by
  induction h with
  | nil first => exact Holds.nil first
  | @cons first ps conditions bs cs head _ ih =>
    rw [List.flatMap_cons]
    exact ((hsep first).append head).append ih

/-- Conditions hold their values also when they are joined into one. -/
theorem HoldInTurn.conjunction {first : Nat} {conditions : List (List Piece)} {bs : List Binding}
    (h : HoldInTurn first conditions bs) : Holds first (conjunction conditions) bs := by
  cases h with
  | nil => exact Holds.nil first
  | cons head tail =>
    have hsep : ∀ n, Holds n [.fixed " AND "] [] := fun n => Holds.fixed n (.ofList (by decide))
    rw [Piece.conjunction, Text.intercalate_cons]
    exact head.append (tail.separated hsep)

/-- They do so with brackets around them, which a single condition goes without. -/
theorem HoldInTurn.bracketed {first : Nat} {conditions : List (List Piece)} {bs : List Binding}
    (h : HoldInTurn first conditions bs) : Holds first (bracketed conditions) bs := by
  unfold Piece.bracketed
  split
  · cases h with
    | cons head tail =>
      cases tail
      simpa using head
  · exact h.conjunction.enclose

/-! ### From pieces to text -/

/-- The text of the pieces reads as the tokens that they were written for. -/
theorem Holds.sqlTokens_eq {first : Nat} {ps : List Piece} {bs : List Binding}
    (h : Holds first ps bs) (style : MarkStyle) :
    sqlTokens (ps.flatMap (chars style)) = ps.flatMap (tokens style) := by
  have hread := h.legible style []
  rw [List.append_nil, sqlTokens, List.append_nil] at hread
  exact hread

/-- The text has one mark for each value, numbered one by one. -/
theorem Holds.sqlMarks_eq {first : Nat} {ps : List Piece} {bs : List Binding}
    (h : Holds first ps bs) (style : MarkStyle) : sqlMarks (ps.flatMap (chars style)) =
      (List.range' first bs.length).map fun number => (style.mark number).toList := by
  rw [sqlMarks, h.sqlTokens_eq, filterMap_mark_tokens, h.numbers]

/-- In the text every mark stands in a bracket that its value fits. -/
theorem Holds.sqlGroups_fit {first : Nat} {ps : List Piece} {bs : List Binding}
    (h : Holds first ps bs) (style : MarkStyle) :
    List.Forall₂ Binding.Fits bs (sqlGroups (ps.flatMap (chars style))) := by
  obtain ⟨found, lead, hfound, hfits⟩ := h.groups style [] [] []
  rw [List.append_nil, SqlToken.groups, List.append_nil] at hfound
  rw [sqlGroups, h.sqlTokens_eq, hfound]
  exact hfits

/-- The texts in both styles line up with the values. -/
theorem Holds.linesUp {first : Nat} {ps : List Piece} {bs : List Binding} (h : Holds first ps bs) :
    LinesUp first (write .numeric ps).toList (write .qmark ps).toList bs := by
  rw [toList_write, toList_write]
  refine ⟨h.sqlMarks_eq .numeric, ?_, ?_, h.sqlGroups_fit .numeric, h.sqlGroups_fit .qmark⟩
  · have hmark : (fun number => (MarkStyle.qmark.mark number).toList) = fun _ => ['?'] := by
      funext number
      rw [MarkStyle.mark]
      rfl
    rw [count_question, h.sqlMarks_eq, hmark, List.map_const', List.count_replicate_self,
      List.length_range']
  · rw [sqlUnnumbered, h.sqlTokens_eq, map_unnumbered_tokens]

end Piece

end StockQuery
