import Mathlib.Data.List.TakeWhile
import StockQuery.Statement

/-!
# Reading SQL text

A database sees no pieces, only text. It finds the marks in it again: a question mark, or a colon
with all the digits after it. The text is read here in this way, whatever style it was written in,
and each mark is given the text in front of the bracket that it stands in.
-/

namespace StockQuery

/-! ## Tokens -/

/-- A part of an SQL text. -/
inductive SqlToken where
  /-- A character that belongs to no mark. -/
  | char (c : Char)
  /-- A mark as it is written. -/
  | mark (text : List Char)

/-- The parts of an SQL text. A mark takes in all the digits that follow its colon. -/
def sqlTokens : List Char → List SqlToken
  | [] => []
  | c :: cs =>
    if c = ':' ∧ cs.takeWhile Char.isDigit ≠ [] then
      .mark (c :: cs.takeWhile Char.isDigit) :: sqlTokens (cs.dropWhile Char.isDigit)
    else if c = '?' then .mark [c] :: sqlTokens cs
    else .char c :: sqlTokens cs
termination_by cs => cs.length
decreasing_by
  · have := (List.dropWhile_sublist (p := Char.isDigit) (l := cs)).length_le
    simp only [List.length_cons]
    omega
  · simp
  · simp

namespace SqlToken

/-- The text of a mark. -/
def mark? : SqlToken → Option (List Char)
  | char _ => none
  | mark text => some text

/-- The token as a character, with a question mark in place of a mark. -/
def unnumbered : SqlToken → Char
  | char c => c
  | mark _ => '?'

/-- For each mark, the text in front of the innermost bracket around it, from the bracket before
that. `stack` holds these texts for the brackets that are open, and `lead` is the text since the
last bracket. Marks do not count as text. -/
def groups (stack : List (List Char)) (lead : List Char) : List SqlToken → List (List Char)
  | [] => []
  | mark _ :: rest => stack.headD [] :: groups stack lead rest
  | char c :: rest =>
    if c = '(' then groups (lead :: stack) [] rest
    else if c = ')' then groups stack.tail [] rest
    else groups stack (lead ++ [c]) rest

end SqlToken

/-- The marks in an SQL text, as they are written. -/
def sqlMarks (cs : List Char) : List (List Char) := (sqlTokens cs).filterMap SqlToken.mark?

/-- An SQL text with a question mark for each of its marks. -/
def sqlUnnumbered (cs : List Char) : List Char := (sqlTokens cs).map SqlToken.unnumbered

/-- For each mark in an SQL text, the text in front of the bracket that it stands in. -/
def sqlGroups (cs : List Char) : List (List Char) := SqlToken.groups [] [] (sqlTokens cs)

/-- There are as many question marks as marks that are written so. -/
theorem count_question (cs : List Char) : cs.count '?' = (sqlMarks cs).count ['?'] := by
  unfold sqlMarks
  induction cs using sqlTokens.induct with
  | case1 => simp [sqlTokens]
  | case2 c cs h ih =>
    have hdigits : (cs.takeWhile Char.isDigit).count '?' = 0 := by
      rw [List.count_eq_zero]
      intro hmem
      exact absurd (List.mem_takeWhile_imp hmem) (by decide)
    have hsplit := congrArg (List.count '?') (List.takeWhile_append_dropWhile (p := Char.isDigit)
      (l := cs))
    rw [List.count_append, hdigits, Nat.zero_add] at hsplit
    rw [sqlTokens, if_pos h, h.1]
    simp [SqlToken.mark?, ← ih, hsplit]
  | case3 cs h ih =>
    rw [sqlTokens, if_neg h, if_pos rfl, List.count_cons_self, ih]
    exact List.count_cons_self.symm
  | case4 c cs h hc ih =>
    rw [sqlTokens, if_neg h, if_neg hc, List.filterMap_cons_none rfl, List.count_cons_of_ne hc, ih]

/-! ## Text without marks -/

/-- Text that reads as itself: no mark can begin in it. -/
def IsPlain (text : String) : Prop := ':' ∉ text.toList ∧ '?' ∉ text.toList

/-- It can be decided whether a text is plain. -/
instance (text : String) : Decidable (IsPlain text) := inferInstanceAs (Decidable (_ ∧ _))

/-- Plain texts make up a plain text. -/
theorem IsPlain.append {s t : String} (hs : IsPlain s) (ht : IsPlain t) : IsPlain (s ++ t) := by
  constructor
  · rw [String.toList_append, List.mem_append]
    exact fun h => h.elim hs.1 ht.1
  · rw [String.toList_append, List.mem_append]
    exact fun h => h.elim hs.2 ht.2

/-- Plain text reads as its characters, and what comes behind it reads as it would by itself. -/
theorem sqlTokens_append_of_plain {cs : List Char} (hcolon : ':' ∉ cs) (hquestion : '?' ∉ cs)
    (rest : List Char) : sqlTokens (cs ++ rest) = cs.map SqlToken.char ++ sqlTokens rest := by
  induction cs with
  | nil => rfl
  | cons c cs ih =>
    rw [List.mem_cons, not_or] at hcolon hquestion
    have hmark : ¬(c = ':' ∧ (cs ++ rest).takeWhile Char.isDigit ≠ []) :=
      fun h => hcolon.1 h.1.symm
    rw [List.cons_append, sqlTokens, if_neg hmark, if_neg (Ne.symm hquestion.1),
      ih hcolon.2 hquestion.2]
    rfl

/-! ## Marks -/

/-- A mark reads as one token if no digit comes behind it, which its number would take in. -/
theorem sqlTokens_mark (style : MarkStyle) (number : Nat) {c : Char} (hc : c.isDigit = false)
    (rest : List Char) : sqlTokens ((style.mark number).toList ++ c :: rest) =
      .mark (style.mark number).toList :: sqlTokens (c :: rest) := by
  cases style with
  | qmark =>
    have hmark : (MarkStyle.qmark.mark number).toList = ['?'] := by
      rw [MarkStyle.mark]
      rfl
    rw [hmark, List.singleton_append, sqlTokens]
    simp
  | numeric =>
    have hmark : (MarkStyle.numeric.mark number).toList = ':' :: Nat.toDigits 10 number := by
      simp [MarkStyle.mark]
    have hdigits : ∀ d ∈ Nat.toDigits 10 number, d.isDigit = true := fun d hd =>
      Nat.isDigit_of_mem_toDigits (by decide) (by decide) hd
    have htake : (Nat.toDigits 10 number ++ c :: rest).takeWhile Char.isDigit =
        Nat.toDigits 10 number := by
      rw [List.takeWhile_append_of_pos hdigits, List.takeWhile_cons_of_neg (by simp [hc]),
        List.append_nil]
    have hdrop : (Nat.toDigits 10 number ++ c :: rest).dropWhile Char.isDigit = c :: rest := by
      rw [List.dropWhile_append_of_pos hdigits, List.dropWhile_cons_of_neg (by simp [hc])]
    rw [hmark, List.cons_append, sqlTokens, htake, hdrop,
      if_pos ⟨rfl, Nat.toDigits_ne_nil⟩]

/-! ## Pieces -/

namespace Piece

/-- The characters of a piece. -/
def chars (style : MarkStyle) (piece : Piece) : List Char := (piece.text style).toList

/-- The tokens that a piece was written for. -/
def tokens (style : MarkStyle) : Piece → List SqlToken
  | fixed text => text.toList.map SqlToken.char
  | mark number => [.mark (style.mark number).toList]

/-- The number of a mark. -/
def number? : Piece → Option Nat
  | fixed _ => none
  | mark number => some number

/-- The text of pieces is made of the characters of each of them. -/
theorem toList_write (style : MarkStyle) (ps : List Piece) :
    (write style ps).toList = ps.flatMap (chars style) := by
  rw [write, String.toList_join, List.flatMap_map]
  rfl

/-- Pieces whose text reads as what it was written for, whatever comes after it. -/
def Legible (ps : List Piece) : Prop :=
  ∀ style rest, sqlTokens (ps.flatMap (chars style) ++ rest) =
    ps.flatMap (tokens style) ++ sqlTokens rest

/-- No pieces read as nothing. -/
theorem Legible.nil : Legible [] := fun _ _ => rfl

/-- Legible pieces may follow legible pieces. -/
theorem Legible.append {ps qs : List Piece} (hp : Legible ps) (hq : Legible qs) :
    Legible (ps ++ qs) := by
  intro style rest
  rw [List.flatMap_append, List.flatMap_append, List.append_assoc, List.append_assoc, hp, hq]

/-- A plain text is legible. -/
theorem legible_fixed {text : String} (h : IsPlain text) : Legible [.fixed text] := by
  intro style rest
  simpa [chars, tokens, Piece.text] using sqlTokens_append_of_plain h.1 h.2 rest

/-- A mark is legible with a plain text behind it that does not start with a digit. -/
theorem legible_mark_fixed (number : Nat) {text : String} (h : IsPlain text) {c : Char}
    {cs : List Char} (htext : text.toList = c :: cs) (hc : c.isDigit = false) :
    Legible [.mark number, .fixed text] := by
  intro style rest
  have hmark := sqlTokens_mark style number hc (cs ++ rest)
  have hfixed := legible_fixed h style rest
  simp only [List.flatMap_cons, List.flatMap_nil, List.append_nil, chars, tokens, Piece.text,
    htext, List.cons_append, List.append_assoc] at hfixed ⊢
  rw [hmark, hfixed]
  rfl

/-- With the marks left unnumbered, only the question marks of the other style are left. -/
theorem map_unnumbered_tokens (style : MarkStyle) (ps : List Piece) :
    (ps.flatMap (tokens style)).map SqlToken.unnumbered = ps.flatMap (chars .qmark) := by
  rw [List.map_flatMap]
  congr 1
  funext p
  cases p with
  | fixed text =>
    have hchar : SqlToken.unnumbered ∘ SqlToken.char = id := rfl
    simp [tokens, chars, Piece.text, hchar]
  | mark number =>
    rw [chars, Piece.text, MarkStyle.mark]
    rfl

/-- The marks among the tokens are those of the pieces, in their order. -/
theorem filterMap_mark_tokens (style : MarkStyle) (ps : List Piece) :
    (ps.flatMap (tokens style)).filterMap SqlToken.mark? =
      (ps.filterMap number?).map fun number => (style.mark number).toList := by
  induction ps with
  | nil => rfl
  | cons p ps ih =>
    rw [List.flatMap_cons, List.filterMap_append, ih]
    cases p with
    | fixed text =>
      have hnone : (text.toList.map SqlToken.char).filterMap SqlToken.mark? = [] := by
        simp [SqlToken.mark?]
      rw [tokens, hnone, List.filterMap_cons_none rfl]
      rfl
    | mark number => rfl

end Piece

end StockQuery
