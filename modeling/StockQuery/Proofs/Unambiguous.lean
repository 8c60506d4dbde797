import Mathlib.Data.List.Basic
import StockQuery.Proofs.Reports

/-!
# Printed documents are unambiguous

A document is told by its text, although a text in it may look like the layout around it. Each part
says itself where it ends: an escaped text has no quotation mark inside, an item is followed by a
comma or a line break, and only a number goes on for as long as there are digits. So two documents
that are followed by other text than digits start alike only if they are the same
(`told_indented`), which is shown for the parts first and then along the tree. What `compile` prints
in its structured form is such a document, and no control sequence gets into it, so that the output
tells the whole plan wherever it goes.
-/

namespace StockQuery

namespace Document

/-! ## Characters -/

/-- The number of a hexadecimal digit in lower case. -/
def hexValue (c : Char) : Nat := if c.isDigit then c.toNat - 48 else c.toNat - 87

/-- The character that a text starts with, read from the way it stands there, and the text after
it. -/
def readTextChar : List Char → Option (Char × List Char)
  | '\\' :: '"' :: rest => some ('"', rest)
  | '\\' :: '\\' :: rest => some ('\\', rest)
  | '\\' :: 'n' :: rest => some ('\n', rest)
  | '\\' :: 'r' :: rest => some ('\r', rest)
  | '\\' :: 't' :: rest => some ('\t', rest)
  | '\\' :: 'b' :: rest => some ('\x08', rest)
  | '\\' :: 'f' :: rest => some ('\x0c', rest)
  | '\\' :: 'u' :: '0' :: '0' :: high :: low :: rest =>
    some (Char.ofNat (16 * hexValue high + hexValue low), rest)
  | '\\' :: _ => none
  | c :: rest => some (c, rest)
  | [] => none

/-- The characters that have an escape of two characters. -/
def shortEscaped : List Char := ['"', '\\', '\n', '\r', '\t', '\x08', '\x0c']

/-- Any other character is written as itself, or by its number when it is a control character. -/
theorem textChar_of_notMem {c : Char} (h : c ∉ shortEscaped) :
    textChar c = if c.toNat < 0x20 then unicodeEscape c else [c] := by
  simp only [shortEscaped, List.mem_cons, List.not_mem_nil, or_false, not_or] at h
  obtain ⟨hquote, hbackslash, hfeed, hreturn, htab, hback, hform⟩ := h
  simp only [textChar, hquote, hbackslash, hfeed, hreturn, htab, hback, hform, if_false]

/-- `hexValue` undoes the digit that is written. -/
theorem hexValue_digitChar {n : Nat} (h : n < 16) : hexValue n.digitChar = n := by
  have hdigits : ∀ n < 16, hexValue n.digitChar = n := by decide
  exact hdigits n h

/-- `readTextChar` finds where the form of one character ends and which character it is. -/
theorem readTextChar_textChar (c : Char) (rest : List Char) :
    readTextChar (textChar c ++ rest) = some (c, rest) := by
  by_cases hshort : c ∈ shortEscaped
  · simp only [shortEscaped, List.mem_cons, List.not_mem_nil, or_false] at hshort
    rcases hshort with rfl | rfl | rfl | rfl | rfl | rfl | rfl <;> rfl
  rw [textChar_of_notMem hshort]
  by_cases hcontrol : c.toNat < 0x20
  · have hhigh : c.toNat / 16 < 16 := by omega
    have hlow : c.toNat % 16 < 16 := by omega
    have hnumber : 16 * (c.toNat / 16) + c.toNat % 16 = c.toNat := by omega
    rw [if_pos hcontrol]
    show some (Char.ofNat (16 * hexValue _ + hexValue _), rest) = _
    rw [hexValue_digitChar hhigh, hexValue_digitChar hlow, hnumber, Char.ofNat_toNat]
  · have hbackslash : c ≠ '\\' := fun heq => hshort (heq ▸ by decide)
    rw [if_neg hcontrol, List.singleton_append]
    unfold readTextChar
    split <;> simp_all

/-- What is read back is the same for two characters that are written alike. -/
theorem textChar_unique {c d : Char} {s t : List Char} (h : textChar c ++ s = textChar d ++ t) :
    c = d ∧ s = t := by
  have hread := readTextChar_textChar c s
  rw [h, readTextChar_textChar] at hread
  obtain ⟨rfl, rfl⟩ := Prod.mk.inj (Option.some.inj hread)
  exact ⟨rfl, rfl⟩

/-- A character stands for itself or is escaped, and no control character stands for itself. -/
theorem textChar_cases (c : Char) :
    (∃ more, textChar c = '\\' :: more ∧ ∀ d ∈ more, 0x20 ≤ d.toNat) ∨
      textChar c = [c] ∧ c ≠ '"' ∧ 0x20 ≤ c.toNat := by
  by_cases hshort : c ∈ shortEscaped
  · left
    simp only [shortEscaped, List.mem_cons, List.not_mem_nil, or_false] at hshort
    rcases hshort with rfl | rfl | rfl | rfl | rfl | rfl | rfl <;>
      exact ⟨_, rfl, List.forall_mem_singleton.2 (by decide)⟩
  rw [textChar_of_notMem hshort]
  by_cases hcontrol : c.toNat < 0x20
  · left
    rw [if_pos hcontrol]
    refine ⟨_, rfl, ?_⟩
    have hdigits : ∀ n < 32, ['u', '0', '0', Nat.digitChar (n / 16), Nat.digitChar (n % 16)].all
        (fun d => decide (0x20 ≤ d.toNat)) = true := by decide
    intro d hd
    exact of_decide_eq_true (List.all_eq_true.1 (hdigits c.toNat hcontrol) d hd)
  · right
    rw [if_neg hcontrol]
    exact ⟨rfl, fun heq => hshort (heq ▸ by decide), by omega⟩

/-- No character is written in a form that could be taken for the closing quote. -/
theorem head?_textChar_ne (c : Char) (s : List Char) : (textChar c ++ s).head? ≠ some '"' := by
  rcases textChar_cases c with ⟨more, heq, -⟩ | ⟨heq, hquote, -⟩
  · rw [heq]
    simp
  · rw [heq]
    simpa using hquote

/-! ## Texts -/

theorem toList_quoteText (s : String) :
    (quoteText s).toList = '"' :: (s.toList.flatMap textChar ++ ['"']) := by
  simp [quoteText]

/-- An escaped text ends at the first quotation mark. -/
theorem flatMap_textChar_unique {cs ds s t : List Char}
    (h : cs.flatMap textChar ++ '"' :: s = ds.flatMap textChar ++ '"' :: t) :
    cs = ds ∧ s = t := by
  induction cs generalizing ds with
  | nil =>
    cases ds with
    | nil => exact ⟨rfl, (List.cons.inj h).2⟩
    | cons d ds =>
      rw [List.flatMap_cons, List.append_assoc] at h
      exact absurd (congrArg List.head? h).symm (head?_textChar_ne d _)
  | cons c cs ih =>
    cases ds with
    | nil =>
      rw [List.flatMap_cons, List.append_assoc] at h
      exact absurd (congrArg List.head? h) (head?_textChar_ne c _)
    | cons d ds =>
      rw [List.flatMap_cons, List.flatMap_cons, List.append_assoc, List.append_assoc] at h
      obtain ⟨rfl, hrest⟩ := textChar_unique h
      obtain ⟨rfl, rfl⟩ := ih hrest
      exact ⟨rfl, rfl⟩

/-- A quoted text ends at its own closing quote, whatever follows it. -/
theorem quoteText_unique {text other : String} {s t : List Char}
    (h : (quoteText text).toList ++ s = (quoteText other).toList ++ t) : text = other ∧ s = t := by
  simp only [toList_quoteText, List.cons_append, List.append_assoc, List.nil_append] at h
  obtain ⟨htext, rfl⟩ := flatMap_textChar_unique (List.cons.inj h).2
  exact ⟨String.toList_inj.1 htext, rfl⟩

/-! ## Numbers -/

/-- A text that does not go on with a digit. -/
def EndsNumber (s : List Char) : Prop := ∀ c ∈ s.head?, c.isDigit = false

/-- The digits at the front are those of the number. -/
theorem takeWhile_isDigit_toDigits (n : Nat) {s : List Char} (h : EndsNumber s) :
    (Nat.toDigits 10 n ++ s).takeWhile Char.isDigit = Nat.toDigits 10 n := by
  have hdigits : ∀ c ∈ Nat.toDigits 10 n, c.isDigit = true := by
    intro c hc
    exact Nat.isDigit_of_mem_toDigits (by decide) (by decide) hc
  have hnone : s.takeWhile Char.isDigit = [] := by
    cases s with
    | nil => rfl
    | cons c s => exact List.takeWhile_cons_of_neg (by simp [h c rfl])
  rw [List.takeWhile_append_of_pos hdigits, hnone, List.append_nil]

/-- A natural number ends where the digits do. -/
theorem toDigits_unique {n m : Nat} {s t : List Char} (hs : EndsNumber s) (ht : EndsNumber t)
    (h : Nat.toDigits 10 n ++ s = Nat.toDigits 10 m ++ t) : n = m ∧ s = t := by
  have hdigits := congrArg (List.takeWhile Char.isDigit) h
  rw [takeWhile_isDigit_toDigits n hs, takeWhile_isDigit_toDigits m ht] at hdigits
  have hnumber := congrArg (Nat.ofDigitChars 10 · 0) hdigits
  simp only [Nat.ofDigitChars_ten_toDigits] at hnumber
  subst hnumber
  exact ⟨rfl, List.append_cancel_left h⟩

theorem exists_digit_toDigits (n : Nat) :
    ∃ c cs, Nat.toDigits 10 n = c :: cs ∧ c.isDigit = true := by
  obtain ⟨c, cs, heq⟩ := List.exists_cons_of_ne_nil (Nat.toDigits_ne_nil (b := 10) (n := n))
  refine ⟨c, cs, heq, ?_⟩
  have hc : c ∈ Nat.toDigits 10 n := heq ▸ List.mem_cons_self
  exact Nat.isDigit_of_mem_toDigits (by decide) (by decide) hc

theorem toList_ofNat (n : Nat) : (toString (Int.ofNat n)).toList = Nat.toDigits 10 n := by
  show n.repr.toList = _
  rw [Nat.repr_eq_ofList_toDigits, String.toList_ofList]

theorem toList_negSucc (n : Nat) :
    (toString (Int.negSucc n)).toList = '-' :: Nat.toDigits 10 (n + 1) := by
  show ("-" ++ (n + 1).repr).toList = _
  simp [Nat.repr_eq_ofList_toDigits]

/-- The sign tells apart the whole numbers below zero, the digits the rest. -/
theorem intText_unique {n m : Int} {s t : List Char} (hs : EndsNumber s) (ht : EndsNumber t)
    (h : (toString n).toList ++ s = (toString m).toList ++ t) : n = m ∧ s = t := by
  have hsign : ∀ (n m : Nat) (s t : List Char),
      (toString (Int.ofNat n)).toList ++ s ≠ (toString (Int.negSucc m)).toList ++ t := by
    intro n m s t heq
    obtain ⟨c, cs, hdigits, hdigit⟩ := exists_digit_toDigits n
    rw [toList_ofNat, hdigits, toList_negSucc] at heq
    rw [(List.cons.inj heq).1] at hdigit
    cases hdigit
  cases n with
  | ofNat n =>
    cases m with
    | ofNat m =>
      rw [toList_ofNat, toList_ofNat] at h
      obtain ⟨rfl, rfl⟩ := toDigits_unique hs ht h
      exact ⟨rfl, rfl⟩
    | negSucc m => exact absurd h (hsign n m s t)
  | negSucc n =>
    cases m with
    | ofNat m => exact absurd h.symm (hsign m n t s)
    | negSucc m =>
      rw [toList_negSucc, toList_negSucc] at h
      obtain ⟨hnumber, rfl⟩ := toDigits_unique hs ht (List.cons.inj h).2
      exact ⟨by rw [Nat.succ.inj hnumber], rfl⟩

/-! ## Entries of a block -/

/-- Of all that can be written, only `a` starts a text like this. -/
def Told {β : Type} (write : β → List Char) (a : β) : Prop :=
  ∀ b s t, EndsNumber s → EndsNumber t → write a ++ s = write b ++ t → a = b ∧ s = t

variable {β : Type}

theorem toList_lineBreak (depth : Nat) :
    (lineBreak depth).toList = '\n' :: List.replicate (2 * depth) ' ' := by
  simp [lineBreak]

/-- What stands between two entries. -/
def separator (depth : Nat) : List Char := ',' :: (lineBreak depth).toList

/-- After the entries of a block comes a comma or a line feed, so a number among them ends there. -/
theorem endsNumber_entries {write : β → List Char} {depth : Nat} {as : List β} {s : List Char}
    (hs : s.head? = some '\n') :
    EndsNumber (as.flatMap (fun a => separator depth ++ write a) ++ s) := by
  cases as with
  | nil =>
    intro c hc
    rw [List.flatMap_nil, List.nil_append, hs, Option.mem_some_iff] at hc
    exact hc ▸ rfl
  | cons a as =>
    rintro c ⟨⟩
    rfl

/-- Entries that are told one by one are told together: a comma is followed by another one, and a
line break by none. -/
theorem told_entries {write : β → List Char} {depth : Nat} {as : List β}
    (h : ∀ a ∈ as, Told write a) {bs : List β} {s t : List Char} (hs : s.head? = some '\n')
    (ht : t.head? = some '\n')
    (heq : as.flatMap (fun a => separator depth ++ write a) ++ s =
      bs.flatMap (fun b => separator depth ++ write b) ++ t) : as = bs ∧ s = t := by
  induction as generalizing bs with
  | nil =>
    cases bs with
    | nil => exact ⟨rfl, heq⟩
    | cons b bs =>
      rw [List.flatMap_nil, List.nil_append] at heq
      rw [heq] at hs
      cases hs
  | cons a as ih =>
    cases bs with
    | nil =>
      rw [List.flatMap_nil, List.nil_append] at heq
      rw [← heq] at ht
      cases ht
    | cons b bs =>
      rw [List.forall_mem_cons] at h
      simp only [List.flatMap_cons, List.append_assoc] at heq
      obtain ⟨rfl, hrest⟩ := h.1 b _ _ (endsNumber_entries hs) (endsNumber_entries ht)
        (List.append_cancel_left heq)
      obtain ⟨rfl, rfl⟩ := ih h.2 hrest
      exact ⟨rfl, rfl⟩

theorem toList_block_cons (opening closing : String) (depth : Nat) (entry : String)
    (more : List String) :
    (block opening closing depth (entry :: more)).toList =
      opening.toList ++ ((lineBreak (depth + 1)).toList ++ (entry.toList ++
        (more.flatMap (fun text => separator (depth + 1) ++ text.toList) ++
          ((lineBreak depth).toList ++ closing.toList)))) := by
  rw [block_cons]
  simp only [String.toList_append, String.toList_join, List.flatMap_map, List.append_assoc,
    separator]
  rfl

/-- A block tells its entries if each of them is told. -/
theorem block_unique {write : β → String} {opening closing : String} {last : Char} {depth : Nat}
    {as bs : List β} {s t : List Char} (h : ∀ a ∈ as, Told (fun a => (write a).toList) a)
    (hclosing : closing.toList = [last]) (hlast : last ≠ '\n')
    (heq : (block opening closing depth (as.map write)).toList ++ s =
      (block opening closing depth (bs.map write)).toList ++ t) : as = bs ∧ s = t := by
  have hends : ∀ s : List Char, ((lineBreak depth).toList ++ (closing.toList ++ s)).head? =
      some '\n' := by
    intro s
    rw [toList_lineBreak]
    rfl
  have hempty : (block opening closing depth []).toList = opening.toList ++ closing.toList :=
    String.toList_append
  cases as with
  | nil =>
    cases bs with
    | nil => exact ⟨rfl, List.append_cancel_left heq⟩
    | cons b bs =>
      rw [List.map_cons, toList_block_cons, List.map_nil, hempty, hclosing, toList_lineBreak] at heq
      simp only [List.append_assoc] at heq
      exact absurd (List.cons.inj (List.append_cancel_left heq)).1 hlast
  | cons a as =>
    cases bs with
    | nil =>
      rw [List.map_cons, toList_block_cons, List.map_nil, hempty, hclosing, toList_lineBreak] at heq
      simp only [List.append_assoc] at heq
      exact absurd (List.cons.inj (List.append_cancel_left heq)).1.symm hlast
    | cons b bs =>
      rw [List.forall_mem_cons] at h
      simp only [List.map_cons, toList_block_cons, List.flatMap_map, List.append_assoc] at heq
      obtain ⟨rfl, hmore⟩ := h.1 b _ _ (endsNumber_entries (hends s)) (endsNumber_entries (hends t))
        (List.append_cancel_left (List.append_cancel_left heq))
      obtain ⟨rfl, hrest⟩ := told_entries h.2 (hends s) (hends t) hmore
      exact ⟨rfl, List.append_cancel_left (List.append_cancel_left hrest)⟩

/-! ## Documents -/

/-- What holds of a document if it holds of its parts holds of every document. -/
theorem induction {motive : Document → Prop} (null : motive .null)
    (int : ∀ value, motive (.int value)) (text : ∀ value, motive (.text value))
    (list : ∀ items, (∀ item ∈ items, motive item) → motive (.list items))
    (object : ∀ fields, (∀ field ∈ fields, motive field.2) → motive (.object fields)) :
    ∀ document, motive document
  | .null => null
  | .int value => int value
  | .text value => text value
  | .list items => list items fun item _ => induction null int text list object item
  | .object fields => object fields fun field _ => induction null int text list object field.2
termination_by document => sizeOf document
decreasing_by
  · have hitem := List.sizeOf_lt_of_mem ‹_›
    simp only [Document.list.sizeOf_spec]
    omega
  · have hfield := List.sizeOf_lt_of_mem ‹_›
    obtain ⟨name, value⟩ := field
    simp only [Document.object.sizeOf_spec, Prod.mk.sizeOf_spec] at hfield ⊢
    omega

/-- A field as it is written at a depth. -/
def fieldText (depth : Nat) (field : String × Document) : String :=
  quoteText field.1 ++ ": " ++ field.2.indented depth

theorem indentedFields_eq (depth : Nat) (fields : List (String × Document)) :
    indentedFields depth fields = fields.map (fieldText depth) := by
  induction fields with
  | nil => rfl
  | cons field rest ih => rw [indentedFields, ih, List.map_cons, fieldText]

/-- The kinds of documents. -/
inductive Kind where
  /-- Nothing. -/
  | null
  /-- An integer. -/
  | int
  /-- A text. -/
  | text
  /-- A list. -/
  | list
  /-- An object. -/
  | object
deriving DecidableEq

/-- The kind of a document. -/
def kind : Document → Kind
  | .null => .null
  | .int _ => .int
  | .text _ => .text
  | .list _ => .list
  | .object _ => .object

/-- The kind of a document that starts with a character. -/
def Kind.ofFirst (c : Char) : Kind :=
  if c = 'n' then .null
  else if c = '"' then .text
  else if c = '[' then .list
  else if c = '\x7b' then .object
  else .int

theorem Kind.ofFirst_of_isDigit {c : Char} (h : c.isDigit = true) : ofFirst c = .int := by
  have hne : ∀ d, d.isDigit = false → c ≠ d := by
    rintro d hd rfl
    rw [h] at hd
    cases hd
  rw [ofFirst, if_neg (hne _ rfl), if_neg (hne _ rfl), if_neg (hne _ rfl), if_neg (hne _ rfl)]

/-- A block starts with its opening, with entries or without. -/
theorem exists_first_block {first : Char} {opening : String} (h : opening.toList = [first])
    (closing : String) (depth : Nat) (entries : List String) :
    ∃ rest, (block opening closing depth entries).toList = first :: rest := by
  cases entries with
  | nil =>
    refine ⟨closing.toList, ?_⟩
    show (opening ++ closing).toList = _
    rw [String.toList_append, h]
    rfl
  | cons entry more =>
    rw [toList_block_cons, h]
    exact ⟨_, rfl⟩

/-- The first character of a document tells its kind. -/
theorem exists_first (document : Document) (depth : Nat) :
    ∃ c rest, (document.indented depth).toList = c :: rest ∧ Kind.ofFirst c = document.kind := by
  cases document with
  | null =>
    refine ⟨'n', ['u', 'l', 'l'], ?_, rfl⟩
    rw [indented]
    rfl
  | int value =>
    cases value with
    | ofNat n =>
      obtain ⟨c, cs, hdigits, hdigit⟩ := exists_digit_toDigits n
      exact ⟨c, cs, (toList_ofNat n).trans hdigits, Kind.ofFirst_of_isDigit hdigit⟩
    | negSucc n => exact ⟨'-', _, toList_negSucc n, rfl⟩
  | text value => exact ⟨'"', _, toList_quoteText value, rfl⟩
  | list items =>
    have hopening : "[".toList = ['['] := rfl
    obtain ⟨rest, hrest⟩ := exists_first_block hopening "]" depth (indentedItems (depth + 1) items)
    exact ⟨'[', rest, hrest, rfl⟩
  | object fields =>
    have hopening : "\x7b".toList = ['\x7b'] := rfl
    obtain ⟨rest, hrest⟩ :=
      exists_first_block hopening "\x7d" depth (indentedFields (depth + 1) fields)
    exact ⟨'\x7b', rest, hrest, rfl⟩

/-- Two documents that are written alike are of one kind. -/
theorem kind_eq_of_indented {document other : Document} {depth : Nat} {s t : List Char}
    (h : (document.indented depth).toList ++ s = (other.indented depth).toList ++ t) :
    document.kind = other.kind := by
  obtain ⟨c, rest, htext, hkind⟩ := document.exists_first depth
  obtain ⟨d, more, hother, hkind'⟩ := other.exists_first depth
  rw [htext, hother] at h
  rw [← hkind, ← hkind', (List.cons.inj h).1]

/-- A field is told by its quoted name and then by its value. -/
theorem told_fieldText {depth : Nat} {field : String × Document}
    (h : Told (fun document => (indented depth document).toList) field.2) :
    Told (fun field => (fieldText depth field).toList) field := by
  intro other s t hs ht heq
  simp only [fieldText, String.toList_append, List.append_assoc] at heq
  obtain ⟨hname, hrest⟩ := quoteText_unique heq
  obtain ⟨hvalue, rfl⟩ := h other.2 s t hs ht (List.append_cancel_left hrest)
  exact ⟨Prod.ext hname hvalue, rfl⟩

/-- A document is told by its text. -/
theorem told_indented (document : Document) (depth : Nat) :
    Told (fun document => (indented depth document).toList) document := by
  induction document using Document.induction generalizing depth with
  | null =>
    intro other s t _ _ heq
    have hkind := kind_eq_of_indented heq
    cases other with
    | null => exact ⟨rfl, List.append_cancel_left heq⟩
    | int | text | list | object => cases hkind
  | int value =>
    intro other s t hs ht heq
    have hkind := kind_eq_of_indented heq
    cases other with
    | int other =>
      obtain ⟨rfl, rfl⟩ := intText_unique hs ht heq
      exact ⟨rfl, rfl⟩
    | null | text | list | object => cases hkind
  | text value =>
    intro other s t _ _ heq
    have hkind := kind_eq_of_indented heq
    cases other with
    | text other =>
      obtain ⟨rfl, rfl⟩ := quoteText_unique heq
      exact ⟨rfl, rfl⟩
    | null | int | list | object => cases hkind
  | list items ih =>
    intro other s t _ _ heq
    have hkind := kind_eq_of_indented heq
    cases other with
    | list others =>
      simp only [indented, indentedItems_eq] at heq
      obtain ⟨rfl, rfl⟩ := block_unique (fun item hitem => ih item hitem (depth + 1)) rfl
        (by decide) heq
      exact ⟨rfl, rfl⟩
    | null | int | text | object => cases hkind
  | object fields ih =>
    intro other s t _ _ heq
    have hkind := kind_eq_of_indented heq
    cases other with
    | object others =>
      simp only [indented, indentedFields_eq] at heq
      obtain ⟨rfl, rfl⟩ := block_unique
        (fun field hfield => told_fieldText (ih field hfield (depth + 1))) rfl (by decide) heq
      exact ⟨rfl, rfl⟩
    | null | int | text | list => cases hkind

/-- A whole document is told by its text, since nothing follows it. -/
theorem indented_injective (depth : Nat) : Function.Injective (indented depth) := by
  intro document other heq
  have hends : EndsNumber [] := nofun
  exact (document.told_indented depth other [] [] hends hends (by simp only [heq])).1

/-! ## Control characters -/

/-- A character that is no control character, or a line feed. -/
def IsLaidOut (c : Char) : Prop := c = '\n' ∨ 0x20 ≤ c.toNat

/-- A control character is always escaped, and an escape has none. -/
theorem isLaidOut_of_mem_textChar {c d : Char} (h : d ∈ textChar c) : IsLaidOut d := by
  rcases textChar_cases c with ⟨more, heq, hmore⟩ | ⟨heq, -, hc⟩
  · rw [heq] at h
    rcases List.mem_cons.1 h with rfl | h
    · exact .inr (by decide)
    · exact .inr (hmore d h)
  · rw [heq, List.mem_singleton] at h
    exact .inr (h ▸ hc)

theorem isLaidOut_of_mem_quoteText {s : String} {c : Char} (h : c ∈ (quoteText s).toList) :
    IsLaidOut c := by
  rw [toList_quoteText, List.mem_cons, List.mem_append, List.mem_flatMap, List.mem_singleton] at h
  rcases h with rfl | ⟨d, -, h⟩ | rfl
  · exact .inr (by decide)
  · exact isLaidOut_of_mem_textChar h
  · exact .inr (by decide)

theorem isLaidOut_of_mem_int {value : Int} {c : Char} (h : c ∈ (toString value).toList) :
    IsLaidOut c := by
  have hdigits : ∀ n : Nat, c ∈ Nat.toDigits 10 n → IsLaidOut c := by
    intro n hc
    have hdigit := Nat.isDigit_of_mem_toDigits (by decide) (by decide) hc
    rw [Char.isDigit, Bool.and_eq_true, decide_eq_true_eq, decide_eq_true_eq] at hdigit
    have hfirst : 48 ≤ c.toNat := hdigit.1
    exact .inr (by omega)
  cases value with
  | ofNat n => exact hdigits n (toList_ofNat n ▸ h)
  | negSucc n =>
    rw [toList_negSucc, List.mem_cons] at h
    rcases h with rfl | h
    · exact .inr (by decide)
    · exact hdigits _ h

theorem isLaidOut_of_mem_lineBreak {depth : Nat} {c : Char} (h : c ∈ (lineBreak depth).toList) :
    IsLaidOut c := by
  rw [toList_lineBreak, List.mem_cons, List.mem_replicate] at h
  rcases h with rfl | ⟨-, rfl⟩
  · exact .inl rfl
  · exact .inr (by decide)

theorem isLaidOut_of_mem_block {opening closing : String} {depth : Nat} {entries : List String}
    (hopening : ∀ c ∈ opening.toList, IsLaidOut c) (hclosing : ∀ c ∈ closing.toList, IsLaidOut c)
    (hentries : ∀ text ∈ entries, ∀ c ∈ text.toList, IsLaidOut c) :
    ∀ c ∈ (block opening closing depth entries).toList, IsLaidOut c := by
  intro c hc
  cases entries with
  | nil =>
    change c ∈ (opening ++ closing).toList at hc
    rw [String.toList_append, List.mem_append] at hc
    exact hc.elim (hopening c) (hclosing c)
  | cons entry more =>
    rw [List.forall_mem_cons] at hentries
    simp only [toList_block_cons, List.mem_append, List.mem_flatMap, separator, List.mem_cons] at hc
    rcases hc with h | h | h | ⟨text, htext, (rfl | h) | h⟩ | h | h
    · exact hopening c h
    · exact isLaidOut_of_mem_lineBreak h
    · exact hentries.1 c h
    · exact .inr (by decide)
    · exact isLaidOut_of_mem_lineBreak h
    · exact hentries.2 text htext c h
    · exact isLaidOut_of_mem_lineBreak h
    · exact hclosing c h

/-- A printed document has no control characters but its line breaks. -/
theorem isLaidOut_of_mem_indented (document : Document) (depth : Nat) :
    ∀ c ∈ (document.indented depth).toList, IsLaidOut c := by
  have hascii : ∀ text : String, text ∈ ["null", "[", "]", "\x7b", "\x7d", ": "] →
      ∀ c ∈ text.toList, IsLaidOut c := by
    have hbounds : ∀ text ∈ ["null", "[", "]", "\x7b", "\x7d", ": "],
        text.toList.all (fun c => decide (0x20 ≤ c.toNat)) = true := by decide
    intro text htext c hc
    exact .inr (of_decide_eq_true (List.all_eq_true.1 (hbounds text htext) c hc))
  induction document using Document.induction generalizing depth with
  | null =>
    rw [indented]
    exact hascii "null" (by simp)
  | int value =>
    rw [indented]
    exact fun c hc => isLaidOut_of_mem_int hc
  | text value =>
    rw [indented]
    exact fun c hc => isLaidOut_of_mem_quoteText hc
  | list items ih =>
    rw [indented, indentedItems_eq]
    refine isLaidOut_of_mem_block (hascii "[" (by simp)) (hascii "]" (by simp)) ?_
    intro text htext
    obtain ⟨item, hitem, rfl⟩ := List.mem_map.1 htext
    exact ih item hitem (depth + 1)
  | object fields ih =>
    rw [indented, indentedFields_eq]
    refine isLaidOut_of_mem_block (hascii "\x7b" (by simp)) (hascii "\x7d" (by simp)) ?_
    intro text htext c hc
    obtain ⟨field, hfield, rfl⟩ := List.mem_map.1 htext
    simp only [fieldText, String.toList_append, List.mem_append] at hc
    rcases hc with (h | h) | h
    · exact isLaidOut_of_mem_quoteText h
    · exact hascii ": " (by simp) c h
    · exact ih field hfield (depth + 1) c h

end Document

/-! ## Plans -/

namespace Report

theorem criterionDocument_injective : Function.Injective criterionDocument := by
  intro value other heq
  cases value <;> cases other <;> simp_all [criterionDocument]

theorem filtersDocument_injective : Function.Injective filtersDocument := by
  intro filters others heq
  refine List.map_injective_iff.2 ?_ (Document.object.inj heq)
  rintro ⟨name, values⟩ ⟨other, more⟩ hfield
  obtain ⟨rfl, hvalues⟩ := Prod.mk.inj hfield
  rw [List.map_injective_iff.2 criterionDocument_injective (Document.list.inj hvalues)]

theorem textDocument_injective : Function.Injective textDocument := by
  intro text other heq
  cases text <;> cases other <;> simp_all [textDocument]

theorem preparedDocument_injective : Function.Injective preparedDocument := by
  rintro ⟨⟨textQuery, filters⟩, statement⟩ ⟨⟨otherQuery, otherFilters⟩, otherStatement⟩ heq
  simp only [preparedDocument, Document.object.injEq, List.cons.injEq, Prod.mk.injEq, true_and,
    and_true, Document.list.injEq] at heq
  obtain ⟨hquery, hfilters, hsql, hparams⟩ := heq
  obtain rfl := textDocument_injective hquery
  obtain rfl := filtersDocument_injective hfilters
  have hsame := textDocument_injective hsql
  have htexts := List.map_injective_iff.2 (fun _ _ => Document.text.inj) hparams
  cases statement with
  | none =>
    cases otherStatement with
    | none => rfl
    | some other => cases hsame
  | some statement =>
    cases otherStatement with
    | none => cases hsame
    | some other =>
      obtain ⟨sql, params⟩ := statement
      obtain ⟨otherSql, otherParams⟩ := other
      obtain rfl : sql = otherSql := Option.some.inj hsame
      obtain rfl : params = otherParams := htexts
      rfl

end Report

/-- No control sequence gets into a structured report. -/
theorem forOutput_preparedJson (terminal : Bool) (plan : SearchPlan) :
    Text.forOutput terminal (Report.preparedJson plan ++ "\n") =
      Report.preparedJson plan ++ "\n" := by
  have hescape : '\x1b' ∉ (Report.preparedJson plan ++ "\n").toList := by
    intro hmem
    rw [String.toList_append, List.mem_append] at hmem
    have hlaid : Document.IsLaidOut '\x1b' :=
      hmem.elim (Document.isLaidOut_of_mem_indented _ _ _) fun h => .inl (List.mem_singleton.1 h)
    exact absurd hlaid (by simp [Document.IsLaidOut])
  exact Text.forOutput_eq_self terminal fun hpair => hescape (hpair.subset List.mem_cons_self)

/-- What `compile` prints for programs tells all that was prepared: the full-text query or that
there is none, the filters with their order and their criteria, and the statement or that there is
none. This is so for all plans, also for those that no search string leads to, and on a terminal as
elsewhere. -/
theorem printed_plan_unique :
    (∀ (options : SearchOptions) (raw : String) (plan : SearchPlan),
      options.prepare raw = .ok plan →
      ((Command.compile .json).run options raw).1 = .ok ⟨Report.preparedJson plan, true⟩) ∧
    ∀ (plan other : SearchPlan) (terminal otherTerminal : Bool),
      Text.forOutput terminal (Report.preparedJson plan ++ "\n") =
        Text.forOutput otherTerminal (Report.preparedJson other ++ "\n") →
      plan.query.textQuery = other.query.textQuery ∧ plan.query.filters = other.query.filters ∧
        plan.statement = other.statement := by
  constructor
  · intro options raw plan hplan
    rw [Command.run, Command.runCompile, hplan]
  · intro plan other terminal otherTerminal heq
    rw [forOutput_preparedJson, forOutput_preparedJson, String.append_left_inj] at heq
    obtain rfl := Report.preparedDocument_injective (Document.indented_injective 0 heq)
    exact ⟨rfl, rfl, rfl⟩

/-- The criteria hold what looks like the layout, and a control sequence. -/
theorem printed_plan_unique_look_alike :
    let plan : SearchPlan := ⟨⟨some "\"],\n  \"sql\": null", [("planner", [.plain "\x1b[31m\\"] ++
      [.negated "\x7b\"not\": \"A\"\x7d"])]⟩, some ⟨"SELECT ?", ["\u2028"]⟩⟩
    let other : SearchPlan := ⟨⟨some "\"],\n  \"sql\": null", [("planner", [.plain "\x1b[31m\\",
      .negated "\x7b\"not\": \"A\"\x7d"])]⟩, some ⟨"SELECT ?", ["\u2028"]⟩⟩
    Text.forOutput true (Report.preparedJson plan ++ "\n") =
      Text.forOutput false (Report.preparedJson other ++ "\n") ∧
    (plan.query.textQuery = other.query.textQuery ∧ plan.query.filters = other.query.filters ∧
      plan.statement = other.statement) ∧
    SearchOptions.prepare {} "-bolt" = .ok ⟨⟨none, []⟩, none⟩ ∧
    ((Command.compile .json).run {} "-bolt").1 =
      .ok ⟨Report.preparedJson ⟨⟨none, []⟩, none⟩, true⟩ := by
  intro plan other
  have hsame : Text.forOutput true (Report.preparedJson plan ++ "\n") =
      Text.forOutput false (Report.preparedJson other ++ "\n") := by
    rw [forOutput_preparedJson, forOutput_preparedJson]
    rfl
  have hprepared : SearchOptions.prepare {} "-bolt" = .ok ⟨⟨none, []⟩, none⟩ := by decide +kernel
  exact ⟨hsame, printed_plan_unique.2 plan other true false hsame, hprepared,
    printed_plan_unique.1 {} "-bolt" _ hprepared⟩

end StockQuery
