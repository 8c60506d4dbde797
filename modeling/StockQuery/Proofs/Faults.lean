import StockQuery.Proofs.Series

/-!
# Where reading halts

A text that is no series of items has a first place at which it cannot be read on. `Breaks` tells
what can be wrong with one item: nothing that a sign could negate, quotation marks that are not
closed or hold nothing, or an item that ends where it may not. `Halts` puts items in front of it.
Reading fails exactly at such a place (`readItems_eq_error_iff`). Filters have no part in this:
where a filter ends at a boundary, the word that is written the same ends there as well.
-/

namespace StockQuery.Search

/-- An item goes wrong: what stands in front of the fault, the fault, and the text from there on. -/
inductive Breaks : List Char → Fault → List Char → Prop
  /-- No term stands behind a sign. -/
  | missingTerm {rest : List Char}
      (h : rest = [] ∨ ∃ more, rest = ' ' :: more ∨ rest = '-' :: more) :
      Breaks ['-'] .missingTerm rest
  /-- A quotation mark is not closed. -/
  | openQuote (negated : Bool) {inside : List Char} (h : '"' ∉ inside) :
      Breaks (signed negated []) .openQuote ('"' :: inside)
  /-- A quotation mark is closed at once. -/
  | emptyQuote (negated : Bool) (rest : List Char) :
      Breaks (signed negated []) .emptyQuote ('"' :: '"' :: rest)
  /-- A quotation mark or a hyphen stands right behind a word. -/
  | word (negated : Bool) {text : List Char} (h : IsWord text) {c : Char} (hc : c = '"' ∨ c = '-')
      (rest : List Char) : Breaks (signed negated text) .missingSpace (c :: rest)
  /-- No space stands behind a quoted text. -/
  | quoted (negated : Bool) {text : List Char} (h : IsQuotable text) {c : Char} (hc : c ≠ ' ')
      (rest : List Char) : Breaks (signed negated (quoted text)) .missingSpace (c :: rest)

/-- A text goes wrong: what stands in front of the fault, the fault, and the text from there on. -/
inductive Halts : List Char → Fault → List Char → Prop
  /-- The next item goes wrong. -/
  | here (n : Nat) {before : List Char} {fault : Fault} {rest : List Char}
      (h : Breaks before fault rest) : Halts (spaces n ++ before) fault rest
  /-- The text goes wrong behind an item and the space after it. -/
  | later (n : Nat) {tok before : List Char} {fault : Fault} {rest : List Char} (h : IsItem tok)
      (hrest : Halts (' ' :: before) fault rest) :
      Halts (spaces n ++ (tok ++ ' ' :: before)) fault rest

variable {names : List String} {cs before rest : List Char} {fault : Fault} {stop : Stop}

/-! ## Items -/

/-- A word is read as far as it goes. -/
theorem readTerm_rest {term : Term} (h : readTerm cs = .ok (term, rest))
    (hword : term.literal = false) {c : Char} {more : List Char} (hrest : rest = c :: more) :
    isWordChar c = false := by
  unfold readTerm at h
  simp only at h
  split at h
  · split at h
    · cases h
    · split at h
      · cases h
      · obtain ⟨rfl, -⟩ := Prod.mk.inj (Except.ok.inj h)
        cases hword
  · split at h
    · cases h
    · obtain ⟨-, hdrop⟩ := Prod.mk.inj (Except.ok.inj h)
      have hhead := List.head?_dropWhile_not isWordChar (readSign cs).2
      rw [hdrop, hrest] at hhead
      simpa using hhead

/-- A term that ends where it may not goes wrong there. -/
theorem breaks_of_readTerm_ok {term : Term} (h : readTerm cs = .ok (term, rest))
    (hrest : atBoundary rest = false) :
    ∃ before, cs = before ++ rest ∧ Breaks before .missingSpace rest := by
  obtain ⟨tok, rfl, hwrites⟩ := readTerm_sound h
  cases hmore : rest with
  | nil =>
    rw [hmore] at hrest
    cases hrest
  | cons c more =>
    have hspace : c ≠ ' ' := by
      rw [hmore] at hrest
      simpa [atBoundary] using hrest
    refine ⟨tok, rfl, ?_⟩
    cases hwrites with
    | word negated hword =>
      have hc := readTerm_rest h rfl hmore
      refine .word negated hword ?_ more
      by_contra hnot
      rw [not_or] at hnot
      rw [isWordChar_iff.2 ⟨hnot.1, hspace, hnot.2⟩] at hc
      cases hc
    | quoted negated hquoted => exact .quoted negated hquoted hspace more

/-- What is read as no term goes wrong. -/
theorem breaks_of_readTerm_error {c : Char} (hc : c ≠ ' ') (h : readTerm (c :: cs) = .error stop) :
    ∃ before, c :: cs = before ++ stop.rest ∧ Breaks before stop.fault stop.rest := by
  have hcs := signed_readSign (c :: cs)
  unfold readTerm at h
  rcases hs : readSign (c :: cs) with ⟨negated, body⟩
  rw [hs] at h hcs
  simp only at h hcs
  have hsplit : ∀ rest : List Char, signed negated rest = signed negated [] ++ rest :=
    fun rest => (signed_append negated [] rest).symm
  split at h
  · next inside =>
    split at h
    · next hdrop =>
      obtain rfl := Except.error.inj h
      have hinside : '"' ∉ inside := by
        intro hmem
        have hall := List.dropWhile_eq_nil_iff.1 hdrop '"' hmem
        simp at hall
      exact ⟨_, hcs.symm.trans (hsplit _), .openQuote negated hinside⟩
    · next first more hdrop =>
      split at h
      · next hempty =>
        obtain rfl := Except.error.inj h
        -- nothing is taken, so the text inside starts with the closing mark
        have hinside := List.takeWhile_append_dropWhile (p := (· != '"')) (l := inside)
        rw [List.isEmpty_iff.1 hempty, List.nil_append, hdrop] at hinside
        have hfirst : first = '"' := by
          have hhead := List.head?_dropWhile_not (· != '"') inside
          rw [hdrop] at hhead
          simpa using hhead
        subst hfirst
        rw [← hinside] at hcs ⊢
        exact ⟨_, hcs.symm.trans (hsplit _), .emptyQuote negated more⟩
      · cases h
  · next hquote =>
    split at h
    · next hempty =>
      obtain rfl := Except.error.inj h
      have hbody : body = [] ∨ ∃ more, body = ' ' :: more ∨ body = '-' :: more := by
        cases body with
        | nil => exact .inl rfl
        | cons first more =>
          have hfirst : isWordChar first = false := by
            cases hword : isWordChar first with
            | false => rfl
            | true => simp [hword] at hempty
          have hne : first ≠ '"' := fun heq => hquote more (by rw [heq])
          by_cases hspace : first = ' '
          · exact .inr ⟨more, .inl (by rw [hspace])⟩
          · refine .inr ⟨more, .inr ?_⟩
            by_contra hhyphen
            have hnot : first ≠ '-' := fun heq => hhyphen (by rw [heq])
            rw [isWordChar_iff.2 ⟨hne, hspace, hnot⟩] at hfirst
            cases hfirst
      cases negated with
      | true => exact ⟨['-'], hcs.symm, .missingTerm hbody⟩
      | false =>
        -- without a sign the text starts with a character of a word
        obtain rfl : body = c :: cs := hcs
        rcases hbody with hnil | ⟨more, hspace | hhyphen⟩
        · cases hnil
        · exact absurd (List.cons.inj hspace).1 hc
        · rw [(List.cons.inj hhyphen).1] at hs
          simp [readSign] at hs
    · cases h

/-- What goes wrong is read as no term, or as one that ends where it may not. -/
theorem Breaks.readTerm_eq (h : Breaks before fault rest) :
    readTerm (before ++ rest) = .error ⟨fault, rest⟩ ∨
      fault = .missingSpace ∧ atBoundary rest = false ∧
        ∃ term, readTerm (before ++ rest) = .ok (term, rest) := by
  cases h with
  | missingTerm h =>
    left
    rcases h with rfl | ⟨more, rfl | rfl⟩
    · rfl
    · rfl
    · rfl
  | @openQuote negated inside h =>
    left
    have hsign : readSign (signed negated [] ++ '"' :: inside) = (negated, '"' :: inside) := by
      rw [signed_append]
      exact readSign_signed negated (by simp)
    have hdrop : inside.dropWhile (· != '"') = [] := by
      rw [List.dropWhile_eq_nil_iff]
      intro c hc
      simpa using fun heq : c = '"' => h (heq ▸ hc)
    simp [readTerm, hsign, hdrop]
  | emptyQuote negated rest =>
    left
    have hsign : readSign (signed negated [] ++ '"' :: '"' :: rest) =
        (negated, '"' :: '"' :: rest) := by
      rw [signed_append]
      exact readSign_signed negated (by simp)
    simp [readTerm, hsign]
  | @word negated text hword c hc rest =>
    right
    have hboundary : atBoundary (c :: rest) = false := by
      rcases hc with rfl | rfl <;> rfl
    refine ⟨rfl, hboundary, _, readTerm_word negated hword ?_⟩
    rintro d more heq
    obtain ⟨rfl, -⟩ := List.cons.inj heq
    rcases hc with rfl | rfl <;> rfl
  | @quoted negated text hquoted c hc rest =>
    right
    have hboundary : atBoundary (c :: rest) = false := by simpa [atBoundary] using hc
    exact ⟨rfl, hboundary, _, readTerm_quoted negated hquoted (c :: rest)⟩

/-- Where a filter ends at a boundary, a term ends there as well. -/
theorem exists_readTerm_of_readFilter (hnames : ∀ name ∈ names, IsLetterName name)
    {item : FilterItem} (h : readFilter names cs = some (item, rest))
    (hrest : atBoundary rest = true) : ∃ term, readTerm cs = .ok (term, rest) := by
  obtain ⟨tok, rfl, hwrites⟩ := readFilter_sound h
  obtain ⟨term, hterm⟩ := hwrites.isItem hnames
  exact ⟨term, readTerm_complete hterm hrest⟩

/-- Where no term ends at a boundary, an item is read as a term is. -/
theorem readItem_eq (hnames : ∀ name ∈ names, IsLetterName name)
    (h : ∀ term rest, readTerm cs = .ok (term, rest) → atBoundary rest = false) :
    readItem names cs = (readTerm cs).map fun read => (.term read.1, read.2) := by
  have hnone : (readFilter names cs).filter (atBoundary ·.2) = none := by
    rw [Option.filter_eq_none_iff]
    rintro ⟨item, rest⟩ hitem hrest
    obtain ⟨term, hterm⟩ := exists_readTerm_of_readFilter hnames hitem hrest
    rw [h term rest hterm] at hrest
    cases hrest
  rw [readItem, hnone]
  cases readTerm cs <;> rfl

theorem readTerm_of_readItem_error (h : readItem names cs = .error stop) :
    readTerm cs = .error stop := by
  unfold readItem at h
  split at h
  · cases h
  · split at h
    · next hterm =>
      rw [hterm, Except.error.inj h]
    · cases h

theorem readTerm_of_readItem_ok {node : Node} (h : readItem names cs = .ok (node, rest))
    (hrest : atBoundary rest = false) : ∃ term, readTerm cs = .ok (term, rest) := by
  unfold readItem at h
  split at h
  · next item rest' hitem =>
    obtain ⟨-, rfl⟩ := Prod.mk.inj (Except.ok.inj h)
    obtain ⟨-, hboundary⟩ := Option.filter_eq_some_iff.1 hitem
    rw [hrest] at hboundary
    cases hboundary
  · split at h
    · cases h
    · next term rest' hterm =>
      obtain ⟨-, rfl⟩ := Prod.mk.inj (Except.ok.inj h)
      exact ⟨term, hterm⟩

/-! ## Texts -/

theorem Breaks.head (h : Breaks before fault rest) :
    ∃ c more, before ++ rest = c :: more ∧ c ≠ ' ' := by
  cases h with
  | missingTerm h => exact ⟨'-', _, rfl, by decide⟩
  | openQuote negated h => cases negated <;> exact ⟨_, _, rfl, by decide⟩
  | emptyQuote negated rest => cases negated <;> exact ⟨_, _, rfl, by decide⟩
  | @word negated text h c hc rest =>
    obtain ⟨d, more, htok, hd⟩ := IsItem.head ⟨_, .word negated h⟩
    exact ⟨d, more ++ c :: rest, by rw [htok]; rfl, hd⟩
  | @quoted negated text h c hc rest =>
    obtain ⟨d, more, htok, hd⟩ := IsItem.head ⟨_, .quoted negated h⟩
    exact ⟨d, more ++ c :: rest, by rw [htok]; rfl, hd⟩

theorem Halts.readItems_eq (hnames : ∀ name ∈ names, IsLetterName name)
    (h : Halts before fault rest) : readItems names (before ++ rest) = .error ⟨fault, rest⟩ := by
  induction h with
  | @here n before fault rest h =>
    obtain ⟨c, more, htext, hc⟩ := h.head
    have hskip : skipSpaces (spaces n ++ before ++ rest) = before ++ rest := by
      rw [List.append_assoc, htext]
      exact skipSpaces_spaces_append n hc more
    have hne : before ++ rest ≠ [] := by
      rw [htext]
      exact List.cons_ne_nil c more
    rcases h.readTerm_eq with hterm | ⟨rfl, hrest, term, hterm⟩
    · rw [readItems_of_skipSpaces hskip hne, readItem_eq hnames (by rw [hterm]; nofun), hterm]
      rfl
    · have hitem : readItem names (before ++ rest) = .ok (.term term, rest) := by
        rw [readItem_eq hnames, hterm]
        · rfl
        · rintro term' rest' heq
          rw [hterm] at heq
          obtain ⟨-, rfl⟩ := Prod.mk.inj (Except.ok.inj heq)
          exact hrest
      rw [readItems_of_skipSpaces hskip hne, hitem]
      exact if_neg (Bool.eq_false_iff.1 hrest)
  | @later n tok before fault rest htok _ ih =>
    obtain ⟨node, hnode⟩ := htok.denotes names
    obtain ⟨c, more, hhead, -⟩ := htok.head
    have hassoc : spaces n ++ (tok ++ ' ' :: before) ++ rest =
        spaces n ++ (tok ++ (' ' :: before ++ rest)) := by
      simp only [List.append_assoc, List.cons_append]
    rw [hassoc, readItems_of_readItem (skipSpaces_item htok n _) (by simp [hhead])
      (readItem_complete hnames hnode rfl) rfl, ih]
    rfl

/-- In front of a fault there is a space if the text starts with one. -/
theorem Halts.exists_cons {more : List Char} (h : Halts before fault rest)
    (htext : before ++ rest = ' ' :: more) : ∃ before', before = ' ' :: before' := by
  have hspaces : ∀ {n : Nat} {cs : List Char}, (∃ c more, cs ++ rest = c :: more ∧ c ≠ ' ') →
      spaces n ++ cs ++ rest = ' ' :: more → ∃ before', spaces n ++ cs = ' ' :: before' := by
    rintro n cs ⟨c, more', hcs, hc⟩ htext
    cases n with
    | zero =>
      rw [spaces, List.replicate_zero, List.nil_append, hcs] at htext
      exact absurd (List.cons.inj htext).1 hc
    | succ n => exact ⟨spaces n ++ cs, rfl⟩
  cases h with
  | here n h => exact hspaces h.head htext
  | @later n tok before _ _ htok hrest =>
    obtain ⟨c, more', hhead, hc⟩ := htok.head
    exact hspaces ⟨c, _, by rw [hhead]; rfl, hc⟩ htext

theorem halts_of_readItems_error (hnames : ∀ name ∈ names, IsLetterName name)
    (h : readItems names cs = .error stop) :
    ∃ before, cs = before ++ stop.rest ∧ Halts before stop.fault stop.rest := by
  -- one item and then the rest of the text, as the reader goes
  fun_induction readItems names cs with
  | case1 => cases h
  | case2 cs c body hskip stop' hitem =>
    obtain rfl := Except.error.inj h
    obtain ⟨n, hn⟩ := eq_spaces_append_skipSpaces cs
    obtain ⟨before, htext, hbreaks⟩ :=
      breaks_of_readTerm_error (head_of_skipSpaces hskip) (readTerm_of_readItem_error hitem)
    refine ⟨spaces n ++ before, ?_, .here n hbreaks⟩
    rw [hn, hskip, htext, List.append_assoc]
  | case3 cs c body hskip node rest hitem hboundary _ stop' hrest ih =>
    obtain rfl := Except.error.inj h
    obtain ⟨n, hn⟩ := eq_spaces_append_skipSpaces cs
    obtain ⟨tok, htok, hdenotes⟩ := readItem_sound hnames hitem hboundary
    obtain ⟨before, htext, hhalts⟩ := ih hrest
    rcases atBoundary_iff.1 hboundary with hnil | ⟨more, hspace⟩
    · rw [hnil] at hrest
      rw [readItems_of_skipSpaces_nil names rfl] at hrest
      cases hrest
    · obtain ⟨before', rfl⟩ := hhalts.exists_cons (htext.symm.trans hspace)
      refine ⟨spaces n ++ (tok ++ ' ' :: before'), ?_, .later n (hdenotes.isItem hnames) hhalts⟩
      rw [hn, hskip, htok, htext]
      simp only [List.append_assoc, List.cons_append]
  | case4 => cases h
  | case5 cs c body hskip node rest hitem hboundary =>
    obtain rfl := Except.error.inj h
    obtain ⟨n, hn⟩ := eq_spaces_append_skipSpaces cs
    have hrest : atBoundary rest = false := Bool.eq_false_iff.2 hboundary
    obtain ⟨term, hterm⟩ := readTerm_of_readItem_ok hitem hrest
    obtain ⟨before, htext, hbreaks⟩ := breaks_of_readTerm_ok hterm hrest
    refine ⟨spaces n ++ before, ?_, .here n hbreaks⟩
    rw [hn, hskip, htext, List.append_assoc]

/-- Reading fails exactly where the text halts, whatever the filters are. -/
theorem readItems_eq_error_iff (hnames : ∀ name ∈ names, IsLetterName name) :
    readItems names cs = .error ⟨fault, rest⟩ ↔
      ∃ before, cs = before ++ rest ∧ Halts before fault rest := by
  constructor
  · exact halts_of_readItems_error hnames
  · rintro ⟨before, rfl, h⟩
    exact h.readItems_eq hnames

end StockQuery.Search
