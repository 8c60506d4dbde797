import StockQuery.Proofs.ViablePrefix

/-!
# Search strings side by side

Two search strings with a space between them are read one after the other. No item is read beyond a
space that ends it, and only an open quotation mark takes the space in. So the items of both strings
follow each other (`Series.append_space`), the second string goes wrong where it would on its own
(`Halts.series_append`), and the first one does so whatever comes behind it (`Halts.append_space`).

Strings of other blanks than spaces are set apart: on their own they ask for nothing, but next to an
item they are words.
-/

namespace StockQuery.Search

/-- The string has more than blanks, or it has nothing but spaces. -/
def IsPart (s : String) : Prop := Text.allBlank s = false ∨ ∃ n, s.toList = spaces n

variable {names : List String} {a b : String} {cs cs' before rest : List Char} {fault : Fault}

/-! ## Series and faults behind a series -/

theorem atBoundary_append_space (h : atBoundary rest = true) (cs : List Char) :
    atBoundary (rest ++ ' ' :: cs) = true := by
  rcases atBoundary_iff.mp h with rfl | ⟨more, rfl⟩
  · rfl
  · rfl

theorem spaces_append_cons (n : Nat) (cs : List Char) :
    spaces n ++ ' ' :: cs = spaces (n + 1) ++ cs := by
  rw [← spaces_append_spaces, List.append_assoc]
  rfl

/-- The items of a series and those of another one behind it. -/
theorem Series.append_space {items items' : List PlacedNode} (h : Series names cs items)
    (h' : Series names cs' items') : ∃ all, Series names (cs ++ ' ' :: cs') all ∧
      all.map PlacedNode.node = items.map PlacedNode.node ++ items'.map PlacedNode.node := by
  -- along the first series, with the second one unchanged
  induction h with
  | done n =>
    refine ⟨items', ?_, rfl⟩
    rw [spaces_append_cons]
    exact h'.spaces_append (n + 1)
  | @item n tok rest node items hdenotes hboundary _ ih =>
    obtain ⟨all, hseries, hnodes⟩ := ih
    have htext : spaces n ++ (tok ++ rest) ++ ' ' :: cs' =
        spaces n ++ (tok ++ (rest ++ ' ' :: cs')) := by
      simp only [List.append_assoc]
    rw [htext]
    refine ⟨_, .item n hdenotes (atBoundary_append_space hboundary cs') hseries, ?_⟩
    rw [List.map_cons, List.map_cons, List.cons_append, hnodes]

theorem Halts.spaces_append (h : Halts before fault rest) (n : Nat) :
    Halts (spaces n ++ before) fault rest := by
  cases h with
  | here m hbroken =>
    rw [← List.append_assoc, spaces_append_spaces]
    exact .here (n + m) hbroken
  | later m htok hrest =>
    rw [← List.append_assoc, spaces_append_spaces]
    exact .later (n + m) htok hrest

/-- What goes wrong still does so behind a series. -/
theorem Halts.series_append (hnames : ∀ name ∈ names, IsLetterName name) {items : List PlacedNode}
    (h : Halts before fault rest) (hseries : Series names cs items) :
    Halts (cs ++ ' ' :: before) fault rest := by
  induction hseries with
  | done n =>
    rw [spaces_append_cons]
    exact h.spaces_append (n + 1)
  | @item n tok more node items hdenotes hboundary _ ih =>
    have htok := hdenotes.isItem hnames
    rcases atBoundary_iff.mp hboundary with rfl | ⟨tail, rfl⟩
    · rw [List.append_nil, List.append_assoc]
      exact .later n htok (h.spaces_append 1)
    · rw [List.append_assoc, List.append_assoc]
      exact .later n htok ih

/-! ## Faults in front of a space -/

/-- A space cannot help, unless it is taken into a quoted text. -/
theorem Breaks.append_space (h : Breaks before fault rest) (hfault : fault ≠ .openQuote)
    (cs : List Char) : Breaks before fault (rest ++ ' ' :: cs) := by
  by_cases hrest : rest = []
  · subst hrest
    cases h with
    | missingTerm _ => exact .missingTerm (.inr ⟨cs, .inl rfl⟩)
  · have hstart : rest.take 2 <+: rest ++ ' ' :: cs :=
      (List.take_prefix 2 rest).trans (List.prefix_append rest (' ' :: cs))
    exact h.of_take_prefix hfault hrest hstart

theorem Halts.append_space (h : Halts before fault rest) (hfault : fault ≠ .openQuote)
    (cs : List Char) : Halts before fault (rest ++ ' ' :: cs) :=
  h.of_breaks fun _ hbroken => hbroken.append_space hfault cs

/-! ## Search strings -/

/-- A part is read as its series. -/
theorem IsPart.parse_eq_ok_iff (hnames : ∀ name ∈ names, IsLetterName name) (ha : IsPart a)
    {tree : Tree} : parse names none a = .ok tree ↔
      ∃ items, Series names a.toList items ∧ tree = items.map PlacedNode.node := by
  rcases ha with hblank | ⟨n, hspaces⟩
  · rw [Search.parse_eq_ok_iff hblank]
    simp [readItems_eq_ok_iff hnames]
  · have hblank : Text.allBlank a = true := by
      have hspace : Text.isBlank ' ' = true := by decide
      simp [Text.allBlank, hspaces, spaces, hspace]
    have hread : readItems names (spaces n) = .ok [] :=
      readItems_of_skipSpaces_nil names (skipSpaces_spaces n)
    rw [parse_of_allBlank names none hblank, hspaces]
    simp [← readItems_eq_ok_iff hnames, hread, eq_comm]

/-- A text that halts is rejected for it. -/
theorem Halts.parse_eq (hnames : ∀ name ∈ names, IsLetterName name)
    (h : Halts before fault rest) (ha : a.toList = before ++ rest) :
    parse names none a = .error ⟨fault, before.length, String.ofList rest⟩ := by
  have hblank : Text.allBlank a = false := by
    obtain ⟨c, hc, hnot⟩ := h.exists_not_blank
    rw [Text.allBlank, List.all_eq_false]
    exact ⟨c, ha ▸ hc, by simp [hnot]⟩
  have hread : readItems names a.toList = .error ⟨fault, rest⟩ :=
    (readItems_eq_error_iff hnames).mpr ⟨before, ha, h⟩
  have hlength : a.length = before.length + rest.length := by
    rw [← String.length_toList, ha, List.length_append]
  have hposition : a.length - rest.length = before.length := by omega
  simp [parse, hblank, hread, reject, hposition]

theorem toList_append_space (a b : String) :
    (a ++ " " ++ b).toList = a.toList ++ ' ' :: b.toList := by
  simp

theorem IsPart.append_space (ha : IsPart a) (hb : IsPart b) : IsPart (a ++ " " ++ b) := by
  rw [IsPart, Text.allBlank, toList_append_space, List.all_append, List.all_cons]
  rcases ha with ha | ⟨n, ha⟩
  · rw [Text.allBlank] at ha
    simp [ha]
  · rcases hb with hb | ⟨m, hb⟩
    · rw [Text.allBlank] at hb
      simp [hb]
    · right
      exact ⟨n + 1 + m, by rw [ha, hb, spaces_append_cons, spaces_append_spaces]⟩

/-- Reading is compositional over a space. Two strings that are accepted are read one after the
other. If only the second is rejected, both together are rejected for the same reason at the same
place of it. If the first is rejected, then so it is with any text behind it, for the same reason
and at the same place, unless the reason is an open quotation mark. -/
theorem parse_append_space (hnames : ∀ name ∈ names, IsLetterName name) :
    (∀ (a b : String) (tree tree' : Tree), IsPart a → IsPart b →
      parse names none a = .ok tree → parse names none b = .ok tree' →
        parse names none (a ++ " " ++ b) = .ok (tree ++ tree')) ∧
    (∀ (a b : String) (tree : Tree) (r : Rejection), IsPart a →
      parse names none a = .ok tree → parse names none b = .error r →
        parse names none (a ++ " " ++ b) =
          .error ⟨r.fault, a.length + 1 + r.position, r.fragment⟩) ∧
    (∀ (a b : String) (r : Rejection),
      parse names none a = .error r → r.fault.message ≠ "unterminated quoted term" →
        parse names none (a ++ " " ++ b) =
          .error ⟨r.fault, r.position, r.fragment ++ " " ++ b⟩) := by
  refine ⟨?_, ?_, ?_⟩
  · intro a b tree tree' ha hb hread hread'
    obtain ⟨items, hseries, rfl⟩ := (ha.parse_eq_ok_iff hnames).mp hread
    obtain ⟨items', hseries', rfl⟩ := (hb.parse_eq_ok_iff hnames).mp hread'
    obtain ⟨all, hall, hnodes⟩ := hseries.append_space hseries'
    rw [(ha.append_space hb).parse_eq_ok_iff hnames, toList_append_space]
    exact ⟨all, hall, hnodes.symm⟩
  · intro a b tree r ha hread hreject
    obtain ⟨items, hseries, -⟩ := (ha.parse_eq_ok_iff hnames).mp hread
    obtain ⟨before, rest, htext, hhalts, hposition, hfragment⟩ :=
      halts_of_parse_error hnames hreject
    have hjoined : (a ++ " " ++ b).toList = (a.toList ++ ' ' :: before) ++ rest := by
      rw [toList_append_space, htext, List.append_assoc, List.cons_append]
    have hlength : (a.toList ++ ' ' :: before).length = a.length + 1 + r.position := by
      rw [List.length_append, List.length_cons, String.length_toList, hposition]
      omega
    rw [(hhalts.series_append hnames hseries).parse_eq hnames hjoined, hlength, hfragment]
  · intro a b r hreject hmessage
    obtain ⟨before, rest, htext, hhalts, hposition, hfragment⟩ :=
      halts_of_parse_error hnames hreject
    have hfault : r.fault ≠ .openQuote := fun h =>
      hmessage (Fault.message_eq_openQuote_iff.mpr h)
    have hjoined : (a ++ " " ++ b).toList = before ++ (rest ++ ' ' :: b.toList) := by
      rw [toList_append_space, htext, List.append_assoc]
    have hrest : String.ofList (rest ++ ' ' :: b.toList) = r.fragment ++ " " ++ b := by
      apply String.toList_inj.mp
      rw [toList_append_space, hfragment, String.toList_ofList, String.toList_ofList]
    rw [(hhalts.append_space hfault b.toList).parse_eq hnames hjoined, hposition, hrest]

/-- A comma behind the space does not go on with a filter, a fault is counted from the start of
both strings, and a quotation mark behind the space does not close one in front of it. -/
theorem parse_append_space_comma :
    (∀ name ∈ filterNames, IsLetterName name) ∧
    (IsPart "\"b c\" planner:a" ∧ IsPart ",b  x" ∧
      parse filterNames none "\"b c\" planner:a ,b  x" = .ok [.term ⟨"b c", true, false⟩,
        .filter ⟨"planner", ["a"], false⟩, .term ⟨",b", false, false⟩,
        .term ⟨"x", false, false⟩]) ∧
    (IsPart "  " ∧ parse filterNames none "   y -" = .error ⟨.missingTerm, 6, ""⟩) ∧
    parse filterNames none "a\"b c\"" = .error ⟨.missingSpace, 1, "\"b c\""⟩ := by
  obtain ⟨hboth, hsecond, hfirst⟩ := parse_append_space isLetterName_of_mem_filterNames
  have hpart : IsPart "\"b c\" planner:a" := .inl (by decide)
  have hpart' : IsPart ",b  x" := .inl (by decide)
  have hspaces : IsPart "  " := .inr ⟨2, by decide⟩
  refine ⟨isLetterName_of_mem_filterNames, ⟨hpart, hpart', ?_⟩, ⟨hspaces, ?_⟩, ?_⟩
  · exact hboth "\"b c\" planner:a" ",b  x"
      [.term ⟨"b c", true, false⟩, .filter ⟨"planner", ["a"], false⟩]
      [.term ⟨",b", false, false⟩, .term ⟨"x", false, false⟩] hpart hpart'
      (by decide +kernel) (by decide +kernel)
  · exact hsecond "  " "y -" [] ⟨.missingTerm, 3, ""⟩ hspaces
      (by decide +kernel) (by decide +kernel)
  · exact hfirst "a\"b" "c\"" ⟨.missingSpace, 1, "\"b"⟩ (by decide +kernel) (by decide)

end StockQuery.Search
