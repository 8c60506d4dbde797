/-!
# Splitting at a character

A text that is cut at every occurrence of one character falls into at least one piece; joined again
with that character, the pieces give back the text.
-/

namespace StockQuery.Text

/-- The pieces between the occurrences of `sep`, empty ones included. -/
def splitAt (sep : Char) : List Char → List (List Char)
  | [] => [[]]
  | c :: cs =>
    if c = sep then [] :: splitAt sep cs
    else
      match splitAt sep cs with
      | [] => [[c]]
      | piece :: pieces => (c :: piece) :: pieces

theorem splitAt_ne_nil (sep : Char) (cs : List Char) : splitAt sep cs ≠ [] := by
  cases cs with
  | nil => simp [splitAt]
  | cons c cs =>
    simp only [splitAt]
    split
    · simp
    · split <;> simp

/-- No piece has the character in it. -/
theorem not_mem_of_mem_splitAt {sep : Char} {cs piece : List Char}
    (h : piece ∈ splitAt sep cs) : sep ∉ piece := by
  induction cs generalizing piece with
  | nil => simp_all [splitAt]
  | cons c cs ih =>
    simp only [splitAt] at h
    split at h
    · rcases List.mem_cons.1 h with rfl | h
      · simp
      · exact ih h
    · next hc =>
      have hsep : sep ≠ c := fun hsep => hc hsep.symm
      split at h
      · next heq => exact absurd heq (splitAt_ne_nil sep cs)
      · next first rest heq =>
        rcases List.mem_cons.1 h with rfl | h
        · have hfirst : sep ∉ first := ih (by simp [heq])
          simpa [hsep] using hfirst
        · exact ih (by simp [heq, h])

/-- Joined again, the pieces give back the text. -/
theorem intercalate_splitAt (sep : Char) (cs : List Char) :
    [sep].intercalate (splitAt sep cs) = cs := by
  induction cs with
  | nil => simp [splitAt, List.intercalate]
  | cons c cs ih =>
    cases hs : splitAt sep cs with
    | nil => exact absurd hs (splitAt_ne_nil sep cs)
    | cons piece pieces =>
      rw [hs] at ih
      by_cases hc : c = sep
      · subst hc
        simp only [splitAt, if_true, hs]
        simpa [List.intercalate] using ih
      · simp only [splitAt, hc, if_false, hs]
        cases pieces with
        | nil => simpa [List.intercalate] using ih
        | cons _ _ => simpa [List.intercalate] using ih

/-- A text without the character is one piece. -/
theorem splitAt_of_notMem {sep : Char} {cs : List Char} (h : sep ∉ cs) : splitAt sep cs = [cs] := by
  induction cs with
  | nil => rfl
  | cons c cs ih =>
    have hc : c ≠ sep := fun heq => h (heq ▸ List.mem_cons_self)
    simp [splitAt, hc, ih fun hcs => h (List.mem_cons_of_mem _ hcs)]

/-- Two texts with the character between them are cut one by one. -/
theorem splitAt_append_sep (sep : Char) (cs rest : List Char) :
    splitAt sep (cs ++ sep :: rest) = splitAt sep cs ++ splitAt sep rest := by
  induction cs with
  | nil => simp [splitAt]
  | cons c cs ih =>
    rw [List.cons_append, splitAt, splitAt, ih]
    by_cases hc : c = sep
    · rw [if_pos hc, if_pos hc, List.cons_append]
    · rw [if_neg hc, if_neg hc]
      cases hs : splitAt sep cs with
      | nil => exact absurd hs (splitAt_ne_nil sep cs)
      | cons piece pieces => rfl

/-- The first piece goes up to the first occurrence. -/
theorem splitAt_append_cons {sep : Char} {cs : List Char} (h : sep ∉ cs) (rest : List Char) :
    splitAt sep (cs ++ sep :: rest) = cs :: splitAt sep rest := by
  rw [splitAt_append_sep, splitAt_of_notMem h]
  rfl

/-- Cut at the first occurrence, a text falls into two parts in one way only. -/
theorem cut_unique {sep : Char} {cs cs' rest rest' : List Char} (h : sep ∉ cs) (h' : sep ∉ cs')
    (heq : cs ++ sep :: rest = cs' ++ sep :: rest') : cs = cs' ∧ rest = rest' := by
  have hpieces := congrArg (splitAt sep) heq
  rw [splitAt_append_cons h, splitAt_append_cons h'] at hpieces
  obtain rfl := (List.cons.inj hpieces).1
  exact ⟨rfl, (List.cons.inj (List.append_cancel_left heq)).2⟩

/-- Joined pieces are the first one, and each other one after a separator. -/
theorem intercalate_cons {α : Type} (sep first : List α) (more : List (List α)) :
    sep.intercalate (first :: more) = first ++ more.flatMap (sep ++ ·) := by
  induction more generalizing first with
  | nil => simp
  | cons piece more ih => simp [List.intercalate_cons_cons, ih]

/-- The pieces of a text, as texts. -/
def split (sep : Char) (s : String) : List String := (splitAt sep s.toList).map String.ofList

end StockQuery.Text
