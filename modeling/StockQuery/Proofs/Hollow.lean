import StockQuery.Proofs.NormalForm

/-!
# Terms that nothing is left of

The reader asks for a text in every term: an empty quotation is rejected, and a word has at least
one character. A form holds the text without the characters that no term can hold, and nobody asks
for what is left then. A term whose text is made of such characters is looked for in forms without a
text (`Term.isHollow_iff`), and no other term is.
-/

namespace StockQuery

open Search

/-! ## Forms without a text -/

/-- The form has nothing between its braces or its percent signs. -/
def IsHollow (form : String) : Prop := form = "\x7b\x7d" ∨ form = "%%"

/-- The hollow forms are the exact form and the wildcard form of an empty value. -/
theorem isHollow_iff {form : String} :
    IsHollow form ↔ form = exactForm "" ∨ form = wildcardForm "" := by
  have hbraces : "\x7b\x7d" = exactForm "" := by decide
  have hpercents : "%%" = wildcardForm "" := by decide
  rw [IsHollow, hbraces, hpercents]

theorem isHollow_exactForm_iff {value : String} : IsHollow (exactForm value) ↔ value = "" := by
  rw [isHollow_iff, exactForm_injective.eq_iff]
  exact or_iff_left (exactForm_ne_wildcardForm value "")

theorem isHollow_wildcardForm_iff {value : String} :
    IsHollow (wildcardForm value) ↔ value = "" := by
  rw [isHollow_iff, or_iff_right (exactForm_ne_wildcardForm "" value).symm]
  constructor
  · intro heq
    have hlist := congrArg String.toList heq
    rw [toList_wildcardForm, toList_wildcardForm, List.cons_inj_right] at hlist
    have hescaped : escapeChars value.toList = [] := List.append_cancel_right hlist
    -- every character is escaped to something, so there is none
    refine String.toList_inj.1 (List.eq_nil_iff_forall_not_mem.2 fun c hc => ?_)
    have hnone := List.flatMap_eq_nil_iff.1 hescaped c hc
    unfold escapeChar at hnone
    split at hnone <;> cases hnone
  · rintro rfl
    rfl

/-- Sanitizing leaves nothing when there is nothing but forbidden characters. -/
theorem sanitize_eq_empty_iff {s : String} :
    sanitize s = "" ↔ ∀ c ∈ s.toList, isForbidden c = true := by
  rw [← String.toList_inj, toList_sanitize, sanitizeChars]
  simp

/-- So a term has a hollow exact form when its text is made of forbidden characters. -/
theorem Term.isHollow_exact_iff {t : Term} :
    IsHollow t.exact ↔ ∀ c ∈ t.text.toList, isForbidden c = true := by
  rw [Term.exact, isHollow_exactForm_iff, sanitize_eq_empty_iff]

/-- All forms of a term have a text, or none has. -/
theorem Term.isHollow_iff {t : Term} {form : String} (h : form ∈ t.alternatives) :
    IsHollow form ↔ ∀ c ∈ t.text.toList, isForbidden c = true := by
  have hcases : form = t.exact ∨ form = wildcardForm (sanitize t.text) := by
    unfold Term.alternatives at h
    split at h
    · simpa using h
    · exact .inl (List.mem_singleton.1 h)
  rcases hcases with rfl | rfl
  · exact t.isHollow_exact_iff
  · rw [isHollow_wildcardForm_iff, sanitize_eq_empty_iff]

/-! ## Search strings -/

/-- The parser itself accepts no empty term. -/
theorem Search.text_ne_empty_of_parse {limit : Option Int} {raw : String} {tree : Tree}
    (h : Search.parse filterNames limit raw = .ok tree) {t : Term} (ht : .term t ∈ tree) :
    t.text ≠ "" := by
  have hgood : t.WellFormed filterNames :=
    wellFormed_of_parse isLetterName_of_mem_filterNames h _ ht
  rintro hempty
  unfold Term.WellFormed at hgood
  split at hgood
  · exact hgood.1 (by rw [hempty]; rfl)
  · exact hgood.1.1 (by rw [hempty]; rfl)

/-- An accepted search string has a text in every term, and its normal form has one in every form,
except for the terms whose text is made of characters that no term can hold. -/
theorem NormalQuery.parse_hollow {limit : Option Int} {raw : String} {tree : Tree}
    (h : Search.parse filterNames limit raw = .ok tree) :
    parse limit raw = .ok (ofTree tree) ∧ (∀ t, .term t ∈ tree → t.text ≠ "") ∧
    ((∃ alternatives ∈ (ofTree tree).terms, ∃ form ∈ alternatives, IsHollow form) ↔
      ∃ t, .term t ∈ tree ∧ t.negated = false ∧ ∀ c ∈ t.text.toList, isForbidden c = true) ∧
    ((∃ form ∈ (ofTree tree).negations, IsHollow form) ↔
      ∃ t, .term t ∈ tree ∧ t.negated = true ∧ ∀ c ∈ t.text.toList, isForbidden c = true) := by
  refine ⟨parse_of_tree h, fun t ht => Search.text_ne_empty_of_parse h ht, ?_, ?_⟩
  · constructor
    · rintro ⟨alternatives, hmem, form, hform, hhollow⟩
      obtain ⟨t, ht, rfl⟩ := List.mem_map.1 hmem
      obtain ⟨hnode, hnegated⟩ := Tree.mem_wanted.1 ht
      exact ⟨t, hnode, hnegated, (Term.isHollow_iff hform).1 hhollow⟩
    · rintro ⟨t, hnode, hnegated, hall⟩
      have hfirst : t.exact ∈ t.alternatives := List.mem_of_mem_head? t.head?_alternatives
      refine ⟨_, List.mem_map_of_mem (Tree.mem_wanted.2 ⟨hnode, hnegated⟩), t.exact, hfirst, ?_⟩
      exact t.isHollow_exact_iff.2 hall
  · constructor
    · rintro ⟨form, hform, hhollow⟩
      obtain ⟨t, ht, rfl⟩ := List.mem_map.1 hform
      obtain ⟨hnode, hnegated⟩ := Tree.mem_unwanted.1 ht
      exact ⟨t, hnode, hnegated, t.isHollow_exact_iff.1 hhollow⟩
    · rintro ⟨t, hnode, hnegated, hall⟩
      refine ⟨_, List.mem_map_of_mem (Tree.mem_unwanted.2 ⟨hnode, hnegated⟩), ?_⟩
      exact t.isHollow_exact_iff.2 hall

/-- The word and the quoted text say nothing once the dots are gone. -/
theorem NormalQuery.parse_hollow_dots :
    Search.parse filterNames none "bolt . -\"..\"" = .ok [.term ⟨"bolt", false, false⟩,
      .term ⟨".", false, false⟩, .term ⟨"..", true, true⟩] ∧
    (∃ alternatives ∈ (ofTree [.term ⟨"bolt", false, false⟩, .term ⟨".", false, false⟩,
      .term ⟨"..", true, true⟩]).terms, ∃ form ∈ alternatives, IsHollow form) := by
  have hparse : Search.parse filterNames none "bolt . -\"..\"" = .ok [
      .term ⟨"bolt", false, false⟩, .term ⟨".", false, false⟩, .term ⟨"..", true, true⟩] := by
    decide +kernel
  obtain ⟨-, -, hterms, -⟩ := parse_hollow hparse
  exact ⟨hparse, hterms.2 ⟨⟨".", false, false⟩, by simp, rfl, by simp [isForbidden]⟩⟩

/-- A quoted text of nothing is rejected, but a quoted text or a word that nothing is left of is
looked for. -/
theorem NormalQuery.parse_leaves_nothing :
    Search.parse filterNames none "\"\"" = .error ⟨.emptyQuote, 0, "\"\""⟩ ∧
    parse none "bolt . -\"*\"" = .ok ⟨[["\x7bbolt\x7d", "%bolt%"], ["\x7b\x7d", "%%"]],
      ["\x7b\x7d"], []⟩ := by
  decide +kernel

end StockQuery
