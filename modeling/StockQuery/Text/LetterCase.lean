import StockQuery.Text.CaseTable

/-!
# Letter case

Upper-case and lower-case forms of a text, for every script. Raising a character may give several
(`ß` gives `SS`). Lowering does so once (`İ`), and a capital sigma depends on its neighbours: at
the end of a word it becomes `ς`, elsewhere `σ`.
-/

namespace StockQuery.Text

/-- The image of a character under a case mapping: itself unless the tables say otherwise. -/
def recase (runs : List CaseRun) (expansions : List (Nat × List Nat)) (c : Char) : List Char :=
  match runs.find? (·.covers c.toNat) with
  | some run => [Char.ofNat (run.move c.toNat)]
  | none =>
    match expansions.find? (·.1 == c.toNat) with
    | some (_, image) => image.map Char.ofNat
    | none => [c]

/-- The upper-case form of a character. -/
def upperChar (c : Char) : List Char := recase upperRuns upperExpansions c

/-- The lower-case form of a character, its neighbours apart. -/
def lowerChar (c : Char) : List Char := recase lowerRuns lowerExpansions c

/-- Whether a character has letter case and is not skipped when looking for the ends of a word. -/
def isCased (c : Char) : Bool := inSpans casedSpans c.toNat

/-- Whether a character is skipped when looking for the ends of a word. -/
def isCaseIgnorable (c : Char) : Bool := inSpans caseIgnorableSpans c.toNat

/-- Whether the first character that is not skipped has letter case. -/
def meetsCased (cs : List Char) : Bool := (cs.dropWhile isCaseIgnorable).head?.any isCased

/-- Lowers characters one by one; `before` holds those already passed, nearest first. A capital
sigma is final when a cased character comes before it and none after it. -/
def lowerFrom (before : List Char) : List Char → List Char
  | [] => []
  | c :: cs =>
    let image :=
      if c == 'Σ' then (if meetsCased before && !meetsCased cs then ['ς'] else ['σ'])
      else lowerChar c
    image ++ lowerFrom (c :: before) cs

/-- The upper-case form of a text. -/
def upper (s : String) : String := String.ofList (s.toList.flatMap upperChar)

/-- The lower-case form of a text. -/
def lower (s : String) : String := String.ofList (lowerFrom [] s.toList)

@[simp] theorem toList_upper (s : String) : (upper s).toList = s.toList.flatMap upperChar := by
  simp [upper]

end StockQuery.Text
