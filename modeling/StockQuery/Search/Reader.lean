import StockQuery.Search.Rejection
import StockQuery.Search.Tree
import StockQuery.Text.Blank
import StockQuery.Text.Split

/-!
# Reading search strings

A search string is a row of items with spaces around and between them:

    search := space* (item (space+ item)*)? space*
    item   := filter | term
    filter := '-'? name ':' value (',' value?)*      value := letter+
    term   := '-'? ('"' not-quote+ '"' | word)       word  := (not quote, space or hyphen)+

An item is read as a filter only where the whole item is one; `planner:` or `planner:a1` are words.
Only U+0020 separates items, but a string of blanks of any kind asks for nothing.

Every reader takes the characters that are left and returns what it read with the characters that
are left then, so a place in the text is the list of characters from there on. `readItem` always
uses up a character (`readItem_length`), which is why `readItems` ends.
-/

namespace StockQuery.Search

/-- Where reading came to an end, and why. -/
structure Stop where
  /-- What is wrong. -/
  fault : Fault
  /-- The characters from there on. -/
  rest : List Char
deriving DecidableEq, Repr

/-- An item and the characters from its first one on. -/
structure PlacedNode where
  /-- The item. -/
  node : Node
  /-- The text from the start of the item to the end of the search string. -/
  start : List Char
deriving DecidableEq, Repr

/-! ## Characters -/

/-- Characters of an unquoted word. -/
def isWordChar (c : Char) : Bool := c != '"' && c != ' ' && c != '-'

/-- Characters of the value part of a filter: the ASCII letters and the comma between slots. -/
def isSlotChar (c : Char) : Bool := c.isAlpha || c == ','

/-- Whether an item may end here: at a space or at the end. -/
def atBoundary : List Char → Bool
  | [] => true
  | c :: _ => c == ' '

/-- Leaves out the spaces at the start. -/
def skipSpaces (cs : List Char) : List Char := cs.dropWhile (· == ' ')

/-! ## Items -/

/-- Takes off a leading hyphen and says whether there was one. -/
def readSign : List Char → Bool × List Char
  | '-' :: cs => (true, cs)
  | cs => (false, cs)

/-- The values of a filter: the slots that are not empty. -/
def slotValues (run : List Char) : List String :=
  ((Text.splitAt ',' run).filter (!·.isEmpty)).map String.ofList

/-- Takes `opening` off the front of the text, if it stands there. -/
def takeOff (opening cs : List Char) : Option (List Char) :=
  if opening.isPrefixOf cs then some (cs.drop opening.length) else none

/-- Takes off the first of the names that stands here with a colon after it. -/
def readName (names : List String) (cs : List Char) : Option (String × List Char) :=
  names.findSome? fun name => (takeOff (name.toList ++ [':']) cs).map (name, ·)

/-- Reads a filter with its values: at least one, and the first right after the colon. -/
def readFilter (names : List String) (cs : List Char) : Option (FilterItem × List Char) :=
  let (negated, body) := readSign cs
  match readName names body with
  | none => none
  | some (name, slots) =>
    if slots.head?.any Char.isAlpha then
      let values := slotValues (slots.takeWhile isSlotChar)
      some (⟨name, values, negated⟩, slots.dropWhile isSlotChar)
    else none

/-- Reads a quoted text or a word, with its sign. -/
def readTerm (cs : List Char) : Except Stop (Term × List Char) :=
  let (negated, body) := readSign cs
  match body with
  | '"' :: inside =>
    let text := inside.takeWhile (· != '"')
    match inside.dropWhile (· != '"') with
    | [] => .error ⟨.openQuote, body⟩
    | _ :: rest =>
      if text.isEmpty then .error ⟨.emptyQuote, body⟩
      else .ok (⟨String.ofList text, true, negated⟩, rest)
  | _ =>
    let word := body.takeWhile isWordChar
    if word.isEmpty then .error ⟨.missingTerm, body⟩
    else .ok (⟨String.ofList word, false, negated⟩, body.dropWhile isWordChar)

/-- Reads an item: a filter if one ends where an item may end, otherwise a term. -/
def readItem (names : List String) (cs : List Char) : Except Stop (Node × List Char) :=
  match (readFilter names cs).filter (atBoundary ·.2) with
  | some (item, rest) => .ok (.filter item, rest)
  | none =>
    match readTerm cs with
    | .error stop => .error stop
    | .ok (term, rest) => .ok (.term term, rest)

/-! ## Readers use up what they read -/

theorem length_dropWhile_le {α : Type} (p : α → Bool) (l : List α) :
    (l.dropWhile p).length ≤ l.length :=
  (List.dropWhile_suffix p).length_le

theorem length_readSign_le (cs : List Char) : (readSign cs).2.length ≤ cs.length := by
  unfold readSign
  split <;> simp

theorem takeOff_eq_some_iff {opening cs rest : List Char} :
    takeOff opening cs = some rest ↔ cs = opening ++ rest := by
  unfold takeOff
  split
  · next h =>
    obtain ⟨tail, rfl⟩ := List.isPrefixOf_iff_prefix.1 h
    simp
  · next h =>
    constructor
    · simp
    · rintro rfl
      exact absurd (List.isPrefixOf_iff_prefix.2 (List.prefix_append opening rest)) h

/-- A name and its colon are taken off the front. -/
theorem readName_eq_some {names : List String} {cs rest : List Char} {name : String}
    (h : readName names cs = some (name, rest)) :
    name ∈ names ∧ cs = name.toList ++ ':' :: rest := by
  obtain ⟨n, hn, hp⟩ := List.exists_of_findSome?_eq_some h
  obtain ⟨r, hr, heq⟩ := Option.map_eq_some_iff.1 hp
  obtain ⟨rfl, rfl⟩ := Prod.mk.inj heq
  exact ⟨hn, by simpa using takeOff_eq_some_iff.1 hr⟩

theorem readFilter_length {names : List String} {cs rest : List Char} {item : FilterItem}
    (h : readFilter names cs = some (item, rest)) : rest.length < cs.length := by
  unfold readFilter at h
  have hsign := length_readSign_le cs
  rcases hs : readSign cs with ⟨negated, body⟩
  rw [hs] at hsign h
  simp only at h hsign
  split at h
  · cases h
  · next name slots hname =>
    obtain ⟨-, hbody⟩ := readName_eq_some hname
    have hdrop := length_dropWhile_le isSlotChar slots
    split at h
    · obtain ⟨-, rfl⟩ := Prod.mk.inj (Option.some.inj h)
      rw [hbody] at hsign
      simp only [List.length_append, List.length_cons] at hsign
      omega
    · cases h

theorem readTerm_length {cs rest : List Char} {term : Term}
    (h : readTerm cs = .ok (term, rest)) : rest.length < cs.length := by
  unfold readTerm at h
  have hsign := length_readSign_le cs
  rcases hs : readSign cs with ⟨negated, body⟩
  rw [hs] at hsign h
  simp only at h hsign
  split at h
  · next inside =>
    split at h
    · cases h
    · next c tail hdrop =>
      have hle := length_dropWhile_le (· != '"') inside
      rw [hdrop] at hle
      split at h
      · cases h
      · obtain ⟨-, rfl⟩ := Prod.mk.inj (Except.ok.inj h)
        simp only [List.length_cons] at hsign hle
        omega
  · split at h
    · cases h
    · next hne =>
      obtain ⟨-, rfl⟩ := Prod.mk.inj (Except.ok.inj h)
      have hsplit : (body.takeWhile isWordChar ++ body.dropWhile isWordChar).length = body.length :=
        congrArg List.length List.takeWhile_append_dropWhile
      have hpos : 0 < (body.takeWhile isWordChar).length := by
        cases hw : body.takeWhile isWordChar with
        | nil => simp [hw] at hne
        | cons _ _ => simp
      simp only [List.length_append] at hsplit
      omega

/-- An item is never empty. -/
theorem readItem_length {names : List String} {cs rest : List Char} {node : Node}
    (h : readItem names cs = .ok (node, rest)) : rest.length < cs.length := by
  unfold readItem at h
  split at h
  · next item tail hf =>
    obtain ⟨-, rfl⟩ := Prod.mk.inj (Except.ok.inj h)
    exact readFilter_length (Option.filter_eq_some_iff.1 hf).1
  · split at h
    · cases h
    · next term tail ht =>
      obtain ⟨-, rfl⟩ := Prod.mk.inj (Except.ok.inj h)
      exact readTerm_length ht

/-- Spaces and an item together are longer than what is left after them. -/
theorem readItem_after_skipSpaces {names : List String} {cs start rest : List Char} {node : Node}
    (hskip : skipSpaces cs = start) (hitem : readItem names start = .ok (node, rest)) :
    rest.length < cs.length := by
  have hlt := readItem_length hitem
  have hle := length_dropWhile_le (· == ' ') cs
  rw [← hskip] at hlt
  simp only [skipSpaces] at hlt
  omega

/-! ## Search strings -/

/-- Reads items to the end of the text, each up to a space or the end. -/
def readItems (names : List String) (cs : List Char) : Except Stop (List PlacedNode) :=
  match hskip : skipSpaces cs with
  | [] => .ok []
  | c :: body =>
    match hitem : readItem names (c :: body) with
    | .error stop => .error stop
    | .ok (node, rest) =>
      if atBoundary rest then
        have : rest.length < cs.length := readItem_after_skipSpaces hskip hitem
        match readItems names rest with
        | .error stop => .error stop
        | .ok items => .ok (⟨node, c :: body⟩ :: items)
      else .error ⟨.missingSpace, rest⟩
termination_by cs.length

/-- The rejection of a search string for a fault at one of its places. -/
def reject (raw : String) (stop : Stop) : Rejection :=
  ⟨stop.fault, raw.length - stop.rest.length, String.ofList stop.rest⟩

/-- The first item that is one too many. A limit below zero allows as few terms as zero does. -/
def overflow (limit : Int) (items : List PlacedNode) : Option Stop :=
  (items.filter (·.node.expands))[limit.toNat]?.map fun item => ⟨.tooManyTerms limit, item.start⟩

/-- Reads a search string with the given filter names and, if one is set, a limit on the number of
terms that are neither quoted nor negated. -/
def parse (names : List String) (limit : Option Int) (raw : String) : Except Rejection Tree :=
  if Text.allBlank raw then .ok []
  else
    match readItems names raw.toList with
    | .error stop => .error (reject raw stop)
    | .ok items =>
      match limit.bind (overflow · items) with
      | some stop => .error (reject raw stop)
      | none => .ok (items.map PlacedNode.node)

end StockQuery.Search
