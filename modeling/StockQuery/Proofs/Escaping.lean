import StockQuery.Proofs.Hollow
import Mathlib.Data.Set.List

/-!
# What is lost in a form

A form is made in two steps: characters that no term can hold are left out, and in the form that
matches parts of words a backslash is put before every operator. Only the first step loses
something. The second can be undone (`unescapeChars_escapeChars`), although the backslash is an
operator itself: read from the left, a backslash is never taken for the character it protects. So
every form of a term tells the sanitized text and no more.
-/

namespace StockQuery

/-! ## Undoing the escapes -/

/-- Leaves out each backslash that is not itself kept by the one before, and keeps the character
behind it. -/
def unescapeChars : List Char → List Char
  | [] => []
  | ['\\'] => []
  | '\\' :: c :: cs => c :: unescapeChars cs
  | c :: cs => c :: unescapeChars cs

/-- The text without the backslashes that protect its operators. -/
def unescape (s : String) : String := String.ofList (unescapeChars s.toList)

/-- A piece of an escaped text: a character that is no operator, or a backslash and an operator. -/
inductive EscapeUnit : List Char → Prop
  /-- A character that is no operator stands for itself. -/
  | plain {c : Char} (h : c ∉ "&=\\-;~|$!>".toList) : EscapeUnit [c]
  /-- An operator stands behind a backslash. -/
  | operator {c : Char} (h : c ∈ "&=\\-;~|$!>".toList) : EscapeUnit ['\\', c]

/-- The operators, written out. -/
theorem isOperator_iff {c : Char} : isOperator c = true ↔ c ∈ "&=\\-;~|$!>".toList := by
  simp [isOperator]

/-- A character that is no backslash is kept. -/
theorem unescapeChars_cons {c : Char} (h : c ≠ '\\') (cs : List Char) :
    unescapeChars (c :: cs) = c :: unescapeChars cs := by
  conv_lhs => unfold unescapeChars
  split <;> simp_all

/-- Whatever follows, an escaped character is read as one. -/
theorem unescapeChars_escapeChar_append (c : Char) (cs : List Char) :
    unescapeChars (escapeChar c ++ cs) = c :: unescapeChars cs := by
  by_cases hc : isOperator c = true
  · rw [escapeChar, if_pos hc]
    rfl
  · have hne : c ≠ '\\' := by
      rintro rfl
      exact hc rfl
    rw [escapeChar, if_neg hc]
    exact unescapeChars_cons hne cs

/-- What is escaped comes back. -/
theorem unescapeChars_escapeChars (cs : List Char) : unescapeChars (escapeChars cs) = cs := by
  induction cs with
  | nil => rfl
  | cons c cs ih =>
    calc unescapeChars (escapeChars (c :: cs))
        = unescapeChars (escapeChar c ++ escapeChars cs) := rfl
      _ = c :: unescapeChars (escapeChars cs) := unescapeChars_escapeChar_append c _
      _ = c :: cs := by rw [ih]

/-- Taking the backslashes away undoes the escaping. -/
theorem leftInverse_unescape : Function.LeftInverse unescape escapeOperators := by
  intro s
  rw [unescape, toList_escapeOperators, unescapeChars_escapeChars, String.ofList_toList]

/-- The pieces of escaped texts are the characters as they are escaped. -/
theorem escapeUnit_iff {unit : List Char} : EscapeUnit unit ↔ ∃ c, escapeChar c = unit := by
  constructor
  · rintro (@⟨c, h⟩ | @⟨c, h⟩)
    · exact ⟨c, if_neg (mt isOperator_iff.mp h)⟩
    · exact ⟨c, if_pos (isOperator_iff.mpr h)⟩
  · rintro ⟨c, rfl⟩
    by_cases hc : isOperator c = true
    · rw [escapeChar, if_pos hc]
      exact .operator (isOperator_iff.mp hc)
    · rw [escapeChar, if_neg hc]
      exact .plain (mt isOperator_iff.mpr hc)

/-- A text is the escaped form of another one exactly if it falls into units. -/
theorem exists_escapeOperators_iff {t : String} : (∃ s, escapeOperators s = t) ↔
    ∃ units : List (List Char), units.flatten = t.toList ∧ ∀ unit ∈ units, EscapeUnit unit := by
  constructor
  · rintro ⟨s, rfl⟩
    refine ⟨s.toList.map escapeChar, ?_, ?_⟩
    · rw [toList_escapeOperators, escapeChars, List.flatMap_def]
    · intro unit hunit
      obtain ⟨c, -, hc⟩ := List.mem_map.mp hunit
      exact escapeUnit_iff.mpr ⟨c, hc⟩
  · rintro ⟨units, hflat, hunits⟩
    have hrange : units ∈ Set.range (List.map escapeChar) := by
      rw [Set.range_list_map]
      exact fun unit hunit => escapeUnit_iff.mp (hunits unit hunit)
    obtain ⟨cs, rfl⟩ := hrange
    refine ⟨String.ofList cs, String.toList_inj.mp ?_⟩
    rw [toList_escapeOperators, String.toList_ofList, escapeChars, List.flatMap_def, hflat]

/-! ## Leaving characters out -/

/-- What is left after removing has nothing to remove. -/
theorem sanitizeChars_sanitizeChars (cs : List Char) :
    sanitizeChars (sanitizeChars cs) = sanitizeChars cs := by
  simp [sanitizeChars]

/-- Removing once is enough. -/
theorem sanitize_sanitize (s : String) : sanitize (sanitize s) = sanitize s := by
  rw [← String.toList_inj, toList_sanitize, toList_sanitize, sanitizeChars_sanitizeChars]

/-- A character is removed everywhere or nowhere. -/
theorem count_sanitizeChars (c : Char) (cs : List Char) : (sanitizeChars cs).count c =
    if c ∈ "\"'()[]\x7b\x7d,.*?_".toList then 0 else cs.count c := by
  by_cases hc : isForbidden c = true
  · rw [if_pos (isForbidden_iff.mp hc), List.count_eq_zero]
    intro hmem
    have hkept := (mem_sanitizeChars_iff.mp hmem).2
    rw [hc] at hkept
    cases hkept
  · rw [if_neg (mt isForbidden_iff.mpr hc), sanitizeChars, List.count_filter (by simpa using hc)]

/-- The sanitized text is the part of the text that has none of the forbidden characters and all of
the others. -/
theorem sanitize_eq_iff {s t : String} : sanitize s = t ↔ t.toList.Sublist s.toList ∧
    ∀ c, t.toList.count c =
      if c ∈ "\"'()[]\x7b\x7d,.*?_".toList then 0 else s.toList.count c := by
  constructor
  · rintro rfl
    rw [toList_sanitize]
    exact ⟨List.filter_sublist, fun c => count_sanitizeChars c s.toList⟩
  · rintro ⟨hsub, hcount⟩
    have hperm : t.toList.Perm (sanitizeChars s.toList) :=
      List.perm_iff_count.mpr fun c => (hcount c).trans (count_sanitizeChars c s.toList).symm
    -- nothing of the part is left out, so it is also a part of the sanitized text
    have hclean : sanitizeChars t.toList = t.toList := by
      rw [sanitizeChars, List.filter_eq_self]
      intro c hc
      simpa using (mem_sanitizeChars_iff.mp (hperm.mem_iff.mp hc)).2
    have hpart : t.toList.Sublist (sanitizeChars s.toList) := by
      have hfilter : (sanitizeChars t.toList).Sublist (sanitizeChars s.toList) := hsub.filter _
      rwa [hclean] at hfilter
    rw [← String.toList_inj, toList_sanitize]
    exact (hpart.eq_of_length hperm.length_eq).symm

/-- A character is kept or removed together with its backslash. -/
theorem sanitizeChars_escapeChar (c : Char) :
    sanitizeChars (escapeChar c) = escapeChars (sanitizeChars [c]) := by
  by_cases hc : isOperator c = true
  · -- neither the operator nor its backslash is left out
    have hall : ∀ d ∈ "&=\\-;~|$!>".toList, isForbidden d = false := by simp [isForbidden]
    have hkept : isForbidden c = false := hall c (isOperator_iff.mp hc)
    have hslash : isForbidden '\\' = false := rfl
    simp [sanitizeChars, escapeChars, escapeChar, hc, hkept, hslash]
  · cases hforbidden : isForbidden c <;>
      simp [sanitizeChars, escapeChars, escapeChar, hc, hforbidden]

/-- It makes no difference for characters which of escaping and removing comes first. -/
theorem sanitizeChars_escapeChars (cs : List Char) :
    sanitizeChars (escapeChars cs) = escapeChars (sanitizeChars cs) := by
  induction cs with
  | nil => rfl
  | cons c cs ih =>
    have hsplit : sanitizeChars (c :: cs) = sanitizeChars [c] ++ sanitizeChars cs :=
      List.filter_append [c] cs
    calc sanitizeChars (escapeChars (c :: cs))
        = sanitizeChars (escapeChar c) ++ sanitizeChars (escapeChars cs) := List.filter_append _ _
      _ = escapeChars (sanitizeChars [c]) ++ escapeChars (sanitizeChars cs) := by
          rw [sanitizeChars_escapeChar, ih]
      _ = escapeChars (sanitizeChars (c :: cs)) := by
          rw [hsplit, escapeChars, escapeChars, escapeChars, List.flatMap_append]

/-- It makes none for texts. -/
theorem sanitize_escapeOperators (s : String) :
    sanitize (escapeOperators s) = escapeOperators (sanitize s) := by
  rw [← String.toList_inj, toList_sanitize, toList_escapeOperators, toList_escapeOperators,
    toList_sanitize, sanitizeChars_escapeChars]

/-! ## Reading forms -/

/-- The text that a form says: what is in its braces, or what is between its percent signs without
the escapes. -/
def payload (form : String) : Option String :=
  match form.toList with
  | '\x7b' :: rest =>
    if rest.getLast? = some '\x7d' then some (String.ofList rest.dropLast) else none
  | '%' :: rest =>
    if rest.getLast? = some '%' then some (String.ofList (unescapeChars rest.dropLast)) else none
  | _ => none

/-- The value in braces is the value. -/
theorem payload_exactForm (value : String) : payload (exactForm value) = some value := by
  simp only [payload, toList_exactForm, List.getLast?_concat, List.dropLast_concat, if_true,
    String.ofList_toList]

/-- The value between percent signs is the value, once its backslashes are taken away. -/
theorem payload_wildcardForm (value : String) : payload (wildcardForm value) = some value := by
  simp only [payload, toList_wildcardForm, List.getLast?_concat, List.dropLast_concat, if_true,
    unescapeChars_escapeChars, String.ofList_toList]

namespace Term

variable {t t' : Term}

/-- A word has two forms. -/
theorem alternatives_of_expands (h : t.expands = true) : t.alternatives = [t.exact, t.widest] := by
  rw [alternatives, widest, if_pos h, if_pos h]

/-- The exact form says what is left of the text. -/
theorem payload_exact (t : Term) : payload t.exact = some (sanitize t.text) :=
  payload_exactForm _

/-- The form that is tried last says the same. -/
theorem payload_widest (t : Term) : payload t.widest = some (sanitize t.text) := by
  unfold widest
  split
  · exact payload_wildcardForm _
  · exact t.payload_exact

/-- Terms of one kind have the same forms exactly if the same is left of their texts. -/
theorem alternatives_eq_iff (h : t.expands = t'.expands) :
    t.alternatives = t'.alternatives ↔ sanitize t.text = sanitize t'.text := by
  constructor
  · intro heq
    have hhead : t.alternatives.head? = t'.alternatives.head? := by rw [heq]
    rw [head?_alternatives, head?_alternatives] at hhead
    have hpayload := congrArg payload (Option.some.inj hhead)
    rw [payload_exact, payload_exact] at hpayload
    exact Option.some.inj hpayload
  · intro heq
    simp only [alternatives, Term.exact, h, heq]

/-- The form that is tried last decides already. -/
theorem widest_eq_iff (h : t.expands = t'.expands) :
    t.widest = t'.widest ↔ sanitize t.text = sanitize t'.text := by
  constructor
  · intro heq
    have hpayload := congrArg payload heq
    rw [payload_widest, payload_widest] at hpayload
    exact Option.some.inj hpayload
  · intro heq
    simp only [widest, Term.exact, h, heq]

end Term

/-- Escaping loses nothing: it can be undone, so no two texts are escaped alike, and a text is an
escaped one exactly if it falls into characters that are no operators and operators with a backslash
before them. Sanitizing leaves out the forbidden characters and nothing else, and it does so at once
and in any order with escaping. Hence the two alternatives of a word that is looked for both say its
sanitized text, and two words of one sign have the same alternatives, or the same last one, exactly
if their sanitized texts are the same. -/
theorem alternatives_say_sanitized_text :
    (∀ s, unescape (escapeOperators s) = s) ∧ Function.Injective escapeOperators ∧
    (∀ t, (∃ s, escapeOperators s = t) ↔ ∃ units : List (List Char),
      units.flatten = t.toList ∧ ∀ unit ∈ units, EscapeUnit unit) ∧
    (∀ s, sanitize (sanitize s) = sanitize s) ∧
    (∀ s t, sanitize s = t ↔ t.toList.Sublist s.toList ∧ ∀ c, t.toList.count c =
      if c ∈ "\"'()[]\x7b\x7d,.*?_".toList then 0 else s.toList.count c) ∧
    (∀ s, sanitize (escapeOperators s) = escapeOperators (sanitize s)) ∧
    (∀ t : Term, t.literal = false → t.negated = false →
      t.alternatives = [t.exact, t.widest] ∧ payload t.exact = some (sanitize t.text) ∧
        payload t.widest = some (sanitize t.text)) ∧
    (∀ t t' : Term, t.literal = false → t'.literal = false → t.negated = t'.negated →
      (t.alternatives = t'.alternatives ↔ sanitize t.text = sanitize t'.text) ∧
      (t.alternatives = t'.alternatives ↔ t.widest = t'.widest)) := by
  refine ⟨leftInverse_unescape, leftInverse_unescape.injective,
    fun t => exists_escapeOperators_iff, sanitize_sanitize, fun s t => sanitize_eq_iff,
    sanitize_escapeOperators, ?_, ?_⟩
  · intro t hliteral hnegated
    have hexpands : t.expands = true := by simp [Term.expands, hliteral, hnegated]
    exact ⟨Term.alternatives_of_expands hexpands, t.payload_exact, t.payload_widest⟩
  · intro t t' hliteral hliteral' hnegated
    have hsame : t.expands = t'.expands := by
      simp [Term.expands, hliteral, hliteral', hnegated]
    refine ⟨Term.alternatives_eq_iff hsame, ?_⟩
    rw [Term.alternatives_eq_iff hsame, Term.widest_eq_iff hsame]

/-- A backslash at the end and one before an operator are told from those that protect. -/
theorem alternatives_say_sanitized_text_backslash :
    (⟨"(a\\&b\\)", false, false⟩ : Term).alternatives =
      ["\x7ba\\&b\\\x7d", "%a\\\\\\&b\\\\%"] ∧
    payload "%a\\\\\\&b\\\\%" = some "a\\&b\\" ∧
    (⟨"(a\\&b\\)", false, false⟩ : Term).alternatives =
      (⟨"a\\.&b_\\", false, false⟩ : Term).alternatives := by
  obtain ⟨-, -, -, -, -, -, hforms, hsame⟩ := alternatives_say_sanitized_text
  obtain ⟨halternatives, -, hpayload⟩ := hforms ⟨"(a\\&b\\)", false, false⟩ rfl rfl
  obtain ⟨hiff, -⟩ := hsame ⟨"(a\\&b\\)", false, false⟩ ⟨"a\\.&b_\\", false, false⟩ rfl rfl rfl
  have htext : sanitize "(a\\&b\\)" = sanitize "a\\.&b_\\" := by decide +kernel
  exact ⟨halternatives, hpayload, hiff.mpr htext⟩

end StockQuery
