import StockQuery.Proofs.Places
import StockQuery.Proofs.Spelling

/-!
# The limit on terms

A limit only turns down trees that are read without it, and it looks at nothing but the words
without a sign (`Node.expands_iff`). If there are more of them than the limit allows, the first one
too many is where the rejection points. The items that are counted carry the text from their start
on, so the place of the fault is the offset at which this word stands in the layout of the text.
-/

namespace StockQuery

/-- What counts towards the limit is a word without a sign. -/
theorem Node.expands_iff {node : Node} :
    node.expands = true ↔ ∃ text, node = .term ⟨text, false, false⟩ := by
  cases node with
  | filter item => simp [Node.expands]
  | term t =>
    obtain ⟨text, literal, negated⟩ := t
    cases literal <;> cases negated <;> simp [Node.expands, Term.expands]

namespace Search

variable {names : List String} {raw : String} {limit : Int}

/-! ## The item that is one too many -/

/-- What is left of a list by a filter stands in the list, behind as many that are left. -/
theorem exists_getElem?_of_filter {α : Type} {p : α → Bool} {l : List α} {k : Nat} {a : α}
    (h : (l.filter p)[k]? = some a) :
    ∃ i, l[i]? = some a ∧ p a = true ∧ (l.take i).countP p = k := by
  induction l generalizing k with
  | nil => cases h
  | cons b l ih =>
    by_cases hb : p b = true
    · rw [List.filter_cons_of_pos hb] at h
      cases k with
      | zero =>
        obtain rfl := Option.some.inj h
        exact ⟨0, rfl, hb, rfl⟩
      | succ k =>
        obtain ⟨i, hi, ha, hcount⟩ := ih h
        refine ⟨i + 1, hi, ha, ?_⟩
        rw [List.take_succ_cons, List.countP_cons_of_pos hb, hcount]
    · rw [List.filter_cons_of_neg hb] at h
      obtain ⟨i, hi, ha, hcount⟩ := ih h
      refine ⟨i + 1, hi, ha, ?_⟩
      rw [List.take_succ_cons, List.countP_cons_of_neg hb, hcount]

/-- With more words than the limit allows there is a first one too many. -/
theorem exists_overflow {placed : List PlacedNode}
    (h : limit.toNat < (placed.map PlacedNode.node).countP Node.expands) :
    ∃ (k : Nat) (item : PlacedNode) (text : String), placed[k]? = some item ∧
      item.node = .term ⟨text, false, false⟩ ∧
      ((placed.map PlacedNode.node).take k).countP Node.expands = limit.toNat ∧
      overflow limit placed = some ⟨.tooManyTerms limit, item.start⟩ := by
  rw [List.countP_map, List.countP_eq_length_filter] at h
  have hget : (placed.filter (·.node.expands))[limit.toNat]? =
      some (placed.filter (·.node.expands))[limit.toNat] := List.getElem?_eq_getElem h
  obtain ⟨k, hk, hexpands, hcount⟩ := exists_getElem?_of_filter hget
  obtain ⟨text, htext⟩ := Node.expands_iff.mp hexpands
  refine ⟨k, _, text, hk, htext, ?_, ?_⟩
  · rw [← List.map_take, List.countP_map]
    exact hcount
  · rw [overflow, hget]
    rfl

/-! ## Reading under a limit -/

theorem parse_error_of_limit {rejection : Rejection} (h : parse names none raw = .error rejection) :
    parse names (some limit) raw = .error rejection := by
  unfold parse at h ⊢
  split at h
  · cases h
  · next hblank =>
    rw [if_neg hblank]
    cases hread : readItems names raw.toList with
    | error stop =>
      rw [hread] at h
      exact h
    | ok placed =>
      rw [hread] at h
      cases h

theorem parse_overflow {placed : List PlacedNode} {stop : Stop} (hblank : Text.allBlank raw = false)
    (hread : readItems names raw.toList = .ok placed) (h : overflow limit placed = some stop) :
    parse names (some limit) raw = .error (reject raw stop) := by
  simp only [parse, hblank, hread, Option.bind_some, h, Bool.false_eq_true, if_false]

theorem parse_within_limit {tree : Tree} (h : parse names none raw = .ok tree)
    (hle : tree.countP Node.expands ≤ limit.toNat) : parse names (some limit) raw = .ok tree := by
  rw [parse_eq_ok_iff_of_limit]
  exact ⟨h, fun n hn => by rwa [← Option.some.inj hn]⟩

/-- A search string is accepted under a limit if it has no more words than that. -/
theorem exists_parse_of_limit_iff : (∃ tree, parse names (some limit) raw = .ok tree) ↔
    ∃ tree, parse names none raw = .ok tree ∧ tree.countP Node.expands ≤ limit.toNat := by
  constructor
  · rintro ⟨tree, h⟩
    obtain ⟨hread, hle⟩ := parse_eq_ok_iff_of_limit.mp h
    exact ⟨tree, hread, hle limit rfl⟩
  · rintro ⟨tree, hread, hle⟩
    exact ⟨tree, parse_within_limit hread hle⟩

/-- The last entry of a list stays at its place. -/
theorem getElem?_append_of_getLast? {α : Type} {l : List α} {a : α} (h : l.getLast? = some a)
    (more : List α) : (l ++ more)[l.length - 1]? = some a := by
  obtain ⟨front, rfl⟩ := List.getLast?_eq_some_iff.mp h
  simp

/-- The first word that is one too many, and the place where it stands. -/
theorem exists_rejection_of_limit {tree : Tree} (h : parse names none raw = .ok tree)
    (hlimit : limit.toNat < tree.countP Node.expands) :
    ∃ (l : Layout) (k position : Nat) (text after : String), l.Shows names raw.toList tree ∧
      tree[k]? = some (.term ⟨text, false, false⟩) ∧
      (tree.take k).countP Node.expands = limit.toNat ∧ l.starts[k]? = some position ∧
      parse names (some limit) raw = .error ⟨.tooManyTerms limit, position, text ++ after⟩ ∧
      (text ++ after).toList = raw.toList.drop position ∧ atBoundary after.toList = true ∧
      (position = 0 ∨ raw.toList[position - 1]? = some ' ') := by
  rcases cases_of_parse_ok h with ⟨-, rfl⟩ | ⟨placed, hread, -, rfl⟩
  · cases hlimit
  have hblank : Text.allBlank raw = false := by
    by_contra hblank
    rw [parse_of_allBlank names none (eq_true_of_ne_false hblank)] at h
    rw [← Except.ok.inj h] at hlimit
    cases hlimit
  obtain ⟨k, item, text, hk, hnode, hcount, hoverflow⟩ := exists_overflow hlimit
  obtain ⟨l, htext, hlays⟩ := exists_lays_of_readItems hread
  obtain ⟨before, c, tok, after, hcut, -, hstart, hwrites, hoffset, hspace, hafter⟩ :=
    hlays.exists_place hk 0
  have htok : c :: tok = text.toList := by
    rw [hnode] at hwrites
    cases hwrites with
    | term h => exact h.spelling_eq.symm
  have hraw : raw.toList = before ++ (text.toList ++ after) := by
    rw [← htext, ← htok]
    exact hcut
  have hlength : raw.length - item.start.length = before.length := by
    rw [← String.length_toList, hraw, hstart, htok, List.length_append]
    omega
  refine ⟨l, k, before.length, text, String.ofList after, ⟨htext, hlays.writes, hlays.apart⟩, ?_,
    hcount, ?_, ?_, ?_, ?_, ?_⟩
  · rw [List.getElem?_map, hk, Option.map_some, hnode]
  · rw [Layout.starts, hoffset, Nat.zero_add]
  · have hfragment : String.ofList item.start = text ++ String.ofList after := by
      rw [hstart, htok, String.ofList_append, String.ofList_toList]
    rw [parse_overflow hblank hread hoverflow, reject, hlength, hfragment]
  · rw [hraw, List.drop_left, String.toList_append, String.toList_ofList]
  · rw [String.toList_ofList]
    exact hafter
  · rcases hspace with rfl | hspace
    · exact .inl rfl
    · right
      rw [hraw]
      exact getElem?_append_of_getLast? hspace _

/-- A limit is exact. A search string that is rejected without it is rejected alike, and one whose
tree has no more words without a sign than the limit, or none if the limit is below zero, is read
alike. Any other is rejected at the first word that is one too many: the text is laid out in the
items of the tree, the place is where this item starts, with nothing or a space in front of it, and
the rest from there on starts with the word. So a higher limit accepts whatever a lower one does,
and quoted texts, negated terms and filters make no difference. -/
theorem parse_under_limit (names : List String) (raw : String) (limit : Int) :
    (∀ rejection, parse names none raw = .error rejection →
      parse names (some limit) raw = .error rejection) ∧
    (∀ tree, parse names none raw = .ok tree →
      (tree.countP Node.expands ≤ limit.toNat → parse names (some limit) raw = .ok tree) ∧
      (limit.toNat < tree.countP Node.expands →
        ∃ (l : Layout) (k position : Nat) (text after : String), l.Shows names raw.toList tree ∧
          tree[k]? = some (.term ⟨text, false, false⟩) ∧
          (tree.take k).countP Node.expands = limit.toNat ∧ l.starts[k]? = some position ∧
          parse names (some limit) raw = .error ⟨.tooManyTerms limit, position, text ++ after⟩ ∧
          (text ++ after).toList = raw.toList.drop position ∧ atBoundary after.toList = true ∧
          (position = 0 ∨ raw.toList[position - 1]? = some ' '))) ∧
    (Fault.tooManyTerms limit).message =
      "too many search terms (at most " ++ toString limit ++ " unquoted terms)" ∧
    (∀ higher, limit ≤ higher → (∃ tree, parse names (some limit) raw = .ok tree) →
      ∃ tree, parse names (some higher) raw = .ok tree) ∧
    (∀ node : Node, node.expands = true ↔ ∃ text, node = .term ⟨text, false, false⟩) ∧
    ∀ (raw' : String) (tree tree' : Tree), parse names none raw = .ok tree →
      parse names none raw' = .ok tree' → tree.filter Node.expands = tree'.filter Node.expands →
        ((∃ read, parse names (some limit) raw = .ok read) ↔
          ∃ read, parse names (some limit) raw' = .ok read) := by
  refine ⟨fun rejection => parse_error_of_limit, ?_, rfl, ?_, fun node => Node.expands_iff, ?_⟩
  · intro tree htree
    exact ⟨parse_within_limit htree, exists_rejection_of_limit htree⟩
  · intro higher hhigher hread
    obtain ⟨tree, htree, hle⟩ := exists_parse_of_limit_iff.mp hread
    have hup : limit.toNat ≤ higher.toNat := Int.toNat_le_toNat hhigher
    exact exists_parse_of_limit_iff.mpr ⟨tree, htree, Nat.le_trans hle hup⟩
  · intro raw' tree tree' htree htree' hsame
    have hcount : tree.countP Node.expands = tree'.countP Node.expands := by
      rw [List.countP_eq_length_filter, List.countP_eq_length_filter, hsame]
    rw [exists_parse_of_limit_iff, exists_parse_of_limit_iff, htree, htree']
    simp [hcount]

/-- Of a negated word, a quoted text, a filter and two words, a limit below zero lets the first
three pass, and a limit of two all of them. -/
theorem parse_under_limit_negative :
    parse ["planner"] none "-x \"a b\" planner:c  d e" = .ok [.term ⟨"x", false, true⟩,
      .term ⟨"a b", true, false⟩, .filter ⟨"planner", ["c"], false⟩, .term ⟨"d", false, false⟩,
      .term ⟨"e", false, false⟩] ∧
    (∃ (k position : Nat) (text after : String), (List.take k [.term ⟨"x", false, true⟩,
        .term ⟨"a b", true, false⟩, .filter ⟨"planner", ["c"], false⟩, .term ⟨"d", false, false⟩,
        .term ⟨"e", false, false⟩]).countP Node.expands = 0 ∧
      parse ["planner"] (some (-5)) "-x \"a b\" planner:c  d e" =
        .error ⟨.tooManyTerms (-5), position, text ++ after⟩ ∧
      (text ++ after).toList = "-x \"a b\" planner:c  d e".toList.drop position) ∧
    parse ["planner"] (some 2) "-x \"a b\" planner:c  d e" = .ok [.term ⟨"x", false, true⟩,
      .term ⟨"a b", true, false⟩, .filter ⟨"planner", ["c"], false⟩, .term ⟨"d", false, false⟩,
      .term ⟨"e", false, false⟩] := by
  have hparse : parse ["planner"] none "-x \"a b\" planner:c  d e" = .ok [
      .term ⟨"x", false, true⟩, .term ⟨"a b", true, false⟩, .filter ⟨"planner", ["c"], false⟩,
      .term ⟨"d", false, false⟩, .term ⟨"e", false, false⟩] := by
    decide +kernel
  obtain ⟨-, hbelow, -⟩ := parse_under_limit ["planner"] "-x \"a b\" planner:c  d e" (-5)
  obtain ⟨-, htwo, -⟩ := parse_under_limit ["planner"] "-x \"a b\" planner:c  d e" 2
  obtain ⟨_, k, position, text, after, -, -, hcount, -, hrejected, hrest, -⟩ :=
    (hbelow _ hparse).2 (by decide)
  exact ⟨hparse, ⟨k, position, text, after, hcount, hrejected, hrest⟩,
    (htwo _ hparse).1 (by decide)⟩

end Search

end StockQuery
