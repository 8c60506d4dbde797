/-!
# Terminal control sequences

A terminal takes some characters as orders, not as text: the escape character, an opening bracket,
parameters made of digits, semicolons and question marks, and a letter. A text that is not shown on
a terminal is written without them. They are looked for once, from left to right, so what stands
around a sequence that is left out does not make up a new one; other uses of the escape character
stay.
-/

namespace StockQuery.Text

/-- Characters between the bracket and the letter of a control sequence. -/
def isControlParameter (c : Char) : Bool := c.isDigit || c == ';' || c == '?'

/-- The characters after the control sequence that starts here, if one does. -/
def afterControlSequence : List Char → Option (List Char)
  | '\x1b' :: '[' :: cs =>
    match cs.dropWhile isControlParameter with
    | [] => none
    | c :: rest => if c.isAlpha then some rest else none
  | _ => none

/-- A control sequence stands in front of what comes after it. -/
theorem suffix_of_afterControlSequence {cs rest : List Char}
    (h : afterControlSequence cs = some rest) : ∃ c, c :: rest <:+ cs.tail := by
  unfold afterControlSequence at h
  split at h
  · next tail =>
    split at h
    · cases h
    · next c after hdrop =>
      split at h
      · cases h
        refine ⟨c, ?_⟩
        rw [← hdrop]
        exact (List.dropWhile_suffix isControlParameter).trans (List.suffix_cons '[' tail)
      · cases h
  · cases h

theorem afterControlSequence_length {cs rest : List Char}
    (h : afterControlSequence cs = some rest) : rest.length < cs.length := by
  obtain ⟨c, hsuffix⟩ := suffix_of_afterControlSequence h
  have hle := hsuffix.length_le
  simp only [List.length_cons, List.length_tail] at hle
  omega

/-- The characters without control sequences. -/
def dropControlSequences (cs : List Char) : List Char :=
  match cs with
  | [] => []
  | c :: tail =>
    match h : afterControlSequence (c :: tail) with
    | some rest =>
      have := afterControlSequence_length h
      dropControlSequences rest
    | none => c :: dropControlSequences tail
termination_by cs.length
decreasing_by
  · exact this
  · exact Nat.lt_succ_self tail.length

/-- Characters among which no escape character has an opening bracket behind it are left as they
are. -/
theorem dropControlSequences_eq_self {cs : List Char} (h : ¬ ['\x1b', '['] <:+: cs) :
    dropControlSequences cs = cs := by
  induction cs with
  | nil => rw [dropControlSequences]
  | cons c tail ih =>
    have hnone : afterControlSequence (c :: tail) = none := by
      unfold afterControlSequence
      split
      · next rest heq =>
        rw [heq] at h
        exact absurd (List.prefix_append ['\x1b', '['] rest).isInfix h
      · rfl
    rw [dropControlSequences]
    split
    · next heq =>
      rw [hnone] at heq
      cases heq
    · rw [ih fun hpair => h (hpair.trans (List.suffix_cons c tail).isInfix)]

/-- A text as it is written to a terminal or to another place. -/
def forOutput (terminal : Bool) (s : String) : String :=
  if terminal then s else String.ofList (dropControlSequences s.toList)

/-- A text in which no control sequence starts is written as it is. -/
theorem forOutput_eq_self (terminal : Bool) {s : String} (h : ¬ ['\x1b', '['] <:+: s.toList) :
    forOutput terminal s = s := by
  cases terminal with
  | true => rfl
  | false =>
    rw [forOutput, if_neg (by decide), dropControlSequences_eq_self h, String.ofList_toList]

end StockQuery.Text
