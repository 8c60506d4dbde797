import StockQuery.Search.Reader
import Mathlib.Data.List.Forall2

/-!
# The grammar of search strings

What a search string says, told without a reader: which texts are items, what an item means, and in
which ways a text can be cut into items. An item never ends before the next space or the end of the
text (`IsItem.cut_unique`), so a text is cut in at most one way (`Layout.WellFormed.eq_of_text_eq`),
although a quoted text may hold spaces.
-/

namespace StockQuery.Search

/-! ## Items as they are written -/

/-- A text with a hyphen in front if it is negated. -/
def signed (negated : Bool) (cs : List Char) : List Char := if negated then '-' :: cs else cs

/-- A text between quotation marks. -/
def quoted (cs : List Char) : List Char := '"' :: (cs ++ ['"'])

/-- An unquoted word: characters that are no quotation mark, no space and no hyphen. -/
def IsWord (cs : List Char) : Prop := cs ≠ [] ∧ ∀ c ∈ cs, c ≠ '"' ∧ c ≠ ' ' ∧ c ≠ '-'

/-- What may stand between quotation marks: characters that are no quotation mark. -/
def IsQuotable (cs : List Char) : Prop := cs ≠ [] ∧ '"' ∉ cs

/-- The text writes the term: `'-'? ('"' not-quote+ '"' | word)`. -/
inductive WritesTerm : List Char → Term → Prop
  /-- A word stands for itself. -/
  | word (negated : Bool) {text : List Char} (h : IsWord text) :
      WritesTerm (signed negated text) ⟨String.ofList text, false, negated⟩
  /-- A quoted text stands for what is between the quotation marks. -/
  | quoted (negated : Bool) {text : List Char} (h : IsQuotable text) :
      WritesTerm (signed negated (quoted text)) ⟨String.ofList text, true, negated⟩

/-- The text writes the filter: `'-'? name ':' value (',' value?)*` for one of the names. The filter
has the values that are written, empty slots left out. -/
inductive WritesFilter (names : List String) : List Char → FilterItem → Prop
  /-- A sign, a name, a colon, a first value and any number of slots. -/
  | mk (negated : Bool) {name : String} {first : List Char} {slots : List (List Char)}
      (hname : name ∈ names) (hfirst : first ≠ [])
      (hletters : ∀ slot ∈ first :: slots, ∀ c ∈ slot, c.isAlpha = true) :
      WritesFilter names
        (signed negated (name.toList ++ ':' :: (first ++ slots.flatMap (',' :: ·))))
        ⟨name, ((first :: slots).filter (!·.isEmpty)).map String.ofList, negated⟩

/-- The texts that may stand between spaces. -/
def IsItem (tok : List Char) : Prop := ∃ term, WritesTerm tok term

/-- What an item means: the filter that the whole of it writes, or else the term. -/
inductive Denotes (names : List String) : List Char → Node → Prop
  /-- The whole item writes a filter. -/
  | filter {tok : List Char} {item : FilterItem} (h : WritesFilter names tok item) :
      Denotes names tok (.filter item)
  /-- The item writes a term and no filter. -/
  | term {tok : List Char} {term : Term} (h : WritesTerm tok term)
      (hf : ∀ item, ¬ WritesFilter names tok item) : Denotes names tok (.term term)

/-- A filter name of lower-case letters, as the registry asks for. -/
def IsLetterName (name : String) : Prop :=
  name.toList ≠ [] ∧ ∀ c ∈ name.toList, c.isLower = true

instance (name : String) : Decidable (IsLetterName name) :=
  decidable_of_iff (name.toList ≠ [] ∧ name.toList.all Char.isLower = true)
    (and_congr_right fun _ => List.all_eq_true)

/-! ## Texts cut into items -/

/-- A number of spaces. -/
def spaces (n : Nat) : List Char := List.replicate n ' '

/-- A text of items: each with the number of spaces in front of it, and the spaces at the end. -/
structure Layout where
  /-- The items, each after the number of spaces in front of it. -/
  items : List (Nat × List Char)
  /-- The number of spaces after the last item. -/
  trailing : Nat

namespace Layout

/-- The text that is laid out. -/
def text (l : Layout) : List Char :=
  l.items.flatMap (fun i => spaces i.1 ++ i.2) ++ spaces l.trailing

/-- The items without the spaces. -/
def tokens (l : Layout) : List (List Char) := l.items.map Prod.snd

/-- The layout is made of items, with at least one space between any two. -/
structure WellFormed (l : Layout) : Prop where
  /-- All items are in the grammar. -/
  items : ∀ i ∈ l.items, IsItem i.2
  /-- A space stands in front of all items but the first. -/
  apart : ∀ i ∈ l.items.tail, 0 < i.1

/-- The layout is a way to cut the text into one or more items. -/
structure Cuts (l : Layout) (cs : List Char) : Prop extends l.WellFormed where
  /-- There is an item. -/
  nonempty : l.items ≠ []
  /-- The text is the one that is laid out. -/
  text_eq : l.text = cs

end Layout

/-! ## Signs, words and boundaries -/

theorem signed_append (negated : Bool) (cs rest : List Char) :
    signed negated cs ++ rest = signed negated (cs ++ rest) := by
  cases negated <;> rfl

theorem mem_signed {negated : Bool} {cs : List Char} {c : Char} (hc : c ≠ '-') :
    c ∈ signed negated cs ↔ c ∈ cs := by
  cases negated <;> simp [signed, hc]

/-- The sign is read back, unless the text itself starts with a hyphen. -/
theorem readSign_signed (negated : Bool) {cs : List Char} (h : cs.head? ≠ some '-') :
    readSign (signed negated cs) = (negated, cs) := by
  cases negated with
  | true => rfl
  | false =>
    cases cs with
    | nil => rfl
    | cons c cs =>
      have hc : c ≠ '-' := by simpa using h
      simp [signed, readSign, hc]

theorem signed_readSign (cs : List Char) : signed (readSign cs).1 (readSign cs).2 = cs := by
  unfold readSign
  split <;> rfl

/-- Texts without a hyphen of their own are told apart from their signs. -/
theorem signed_inj {negated negated' : Bool} {cs cs' : List Char} (h : cs.head? ≠ some '-')
    (h' : cs'.head? ≠ some '-') (heq : signed negated cs = signed negated' cs') :
    negated = negated' ∧ cs = cs' := by
  have hread := congrArg readSign heq
  rw [readSign_signed negated h, readSign_signed negated' h'] at hread
  exact Prod.mk.inj hread

theorem isWordChar_iff {c : Char} : isWordChar c = true ↔ c ≠ '"' ∧ c ≠ ' ' ∧ c ≠ '-' := by
  simp [isWordChar, and_assoc]

theorem atBoundary_iff {cs : List Char} :
    atBoundary cs = true ↔ cs = [] ∨ ∃ more, cs = ' ' :: more := by
  cases cs with
  | nil => simp [atBoundary]
  | cons c cs => simp [atBoundary]

/-- What stops at spaces stops at a boundary. -/
theorem takeWhile_append_of_boundary {p : Char → Bool} {w rest : List Char}
    (hw : ∀ c ∈ w, p c = true) (hspace : p ' ' = false) (hrest : atBoundary rest = true) :
    (w ++ rest).takeWhile p = w ∧ (w ++ rest).dropWhile p = rest := by
  rw [List.takeWhile_append_of_pos hw, List.dropWhile_append_of_pos hw]
  rcases atBoundary_iff.1 hrest with rfl | ⟨more, rfl⟩
  · simp
  · simp [hspace]

theorem IsWord.head?_ne {cs : List Char} (h : IsWord cs) (rest : List Char) :
    (cs ++ rest).head? ≠ some '-' := by
  obtain ⟨hne, hall⟩ := h
  cases cs with
  | nil => exact absurd rfl hne
  | cons c cs => simpa using (hall c (by simp)).2.2

theorem letter_isSlotChar {c : Char} (h : c.isAlpha = true) : isSlotChar c = true := by
  simp [isSlotChar, h]

theorem letter_isWordChar {c : Char} (h : c.isAlpha = true) : c ≠ '"' ∧ c ≠ ' ' ∧ c ≠ '-' := by
  refine ⟨?_, ?_, ?_⟩ <;> rintro rfl <;> revert h <;> decide

theorem isAlpha_of_isLower {c : Char} (h : c.isLower = true) : c.isAlpha = true := by
  show (c.isUpper || c.isLower) = true
  rw [h, Bool.or_true]

theorem IsLetterName.isAlpha {name : String} (h : IsLetterName name) {c : Char}
    (hc : c ∈ name.toList) : c.isAlpha = true :=
  isAlpha_of_isLower (h.2 c hc)

theorem IsLetterName.head?_ne {name : String} (h : IsLetterName name) (rest : List Char) :
    (name.toList ++ rest).head? ≠ some '-' := by
  obtain ⟨hne, hlower⟩ := h
  cases hname : name.toList with
  | nil => exact absurd hname hne
  | cons c cs =>
    have hc : c.isLower = true := hlower c (by simp [hname])
    have hhyphen : c ≠ '-' := by
      rintro rfl
      exact absurd hc (by decide)
    simpa using hhyphen

theorem IsLetterName.colon_notMem {name : String} (h : IsLetterName name) : ':' ∉ name.toList :=
  fun hc => absurd (h.isAlpha hc) (by decide)

end StockQuery.Search
