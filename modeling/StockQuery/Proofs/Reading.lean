import StockQuery.Proofs.Grammar
import Mathlib.Data.List.TakeWhile

/-!
# Reading follows the grammar

Each reader is compared with the grammar in both directions: what it reads off the front of a text
is an item of the grammar (`_sound`), and an item of the grammar that ends at a boundary is what it
reads (`_complete`).
-/

namespace StockQuery.Search

/-! ## Terms -/

/-- A word is read up to the first character that cannot stand in one. -/
theorem readTerm_word (negated : Bool) {text rest : List Char} (h : IsWord text)
    (hrest : ∀ c more, rest = c :: more → isWordChar c = false) :
    readTerm (signed negated text ++ rest) = .ok (⟨String.ofList text, false, negated⟩, rest) := by
  have hsign : readSign (signed negated text ++ rest) = (negated, text ++ rest) := by
    rw [signed_append]
    exact readSign_signed negated (h.head?_ne rest)
  have hpos : ∀ c ∈ text, isWordChar c = true := fun c hc => isWordChar_iff.2 (h.2 c hc)
  have htake : (text ++ rest).takeWhile isWordChar = text := by
    rw [List.takeWhile_append_of_pos hpos]
    cases rest with
    | nil => simp
    | cons c more => simp [hrest c more rfl]
  have hdrop : (text ++ rest).dropWhile isWordChar = rest := by
    rw [List.dropWhile_append_of_pos hpos]
    cases rest with
    | nil => simp
    | cons c more => simp [hrest c more rfl]
  have hquote : ∀ inside, text ++ rest ≠ '"' :: inside := by
    intro inside heq
    obtain ⟨hne, hall⟩ := h
    cases text with
    | nil => exact hne rfl
    | cons c cs => exact (hall c (by simp)).1 (List.cons.inj heq).1
  simp only [readTerm, hsign]
  split
  · next hempty =>
    rw [htake] at hempty
    exact absurd (List.isEmpty_iff.1 hempty) h.1
  · rw [htake, hdrop]

/-- A quoted text is read up to its closing mark. -/
theorem readTerm_quoted (negated : Bool) {text : List Char} (h : IsQuotable text)
    (rest : List Char) : readTerm (signed negated (quoted text) ++ rest) =
      .ok (⟨String.ofList text, true, negated⟩, rest) := by
  have hsign : readSign (signed negated (quoted text) ++ rest) =
      (negated, quoted text ++ rest) := by
    rw [signed_append]
    exact readSign_signed negated (by simp [quoted])
  have hinside : ∀ c ∈ text, (c != '"') = true := by
    intro c hc
    simpa using fun heq : c = '"' => h.2 (heq ▸ hc)
  have htake : (text ++ '"' :: rest).takeWhile (· != '"') = text := by
    rw [List.takeWhile_append_of_pos hinside]
    simp
  have hdrop : (text ++ '"' :: rest).dropWhile (· != '"') = '"' :: rest := by
    rw [List.dropWhile_append_of_pos hinside]
    simp
  have hbody : quoted text ++ rest = '"' :: (text ++ '"' :: rest) := by simp [quoted]
  simp only [readTerm, hsign, hbody, htake, hdrop]
  simp [h.1]

/-- A term is read back when it ends at a boundary. -/
theorem readTerm_complete {tok rest : List Char} {term : Term} (h : WritesTerm tok term)
    (hrest : atBoundary rest = true) : readTerm (tok ++ rest) = .ok (term, rest) := by
  cases h with
  | word negated h =>
    apply readTerm_word negated h
    rintro c more rfl
    obtain rfl : c = ' ' := by simpa [atBoundary] using hrest
    rfl
  | quoted negated h => exact readTerm_quoted negated h rest

/-- What is read as a term is written as one. -/
theorem readTerm_sound {cs rest : List Char} {term : Term} (h : readTerm cs = .ok (term, rest)) :
    ∃ tok, cs = tok ++ rest ∧ WritesTerm tok term := by
  have hcs := signed_readSign cs
  unfold readTerm at h
  rcases hs : readSign cs with ⟨negated, body⟩
  rw [hs] at h hcs
  simp only at h hcs
  split at h
  · next inside =>
    split at h
    · cases h
    · next c more hdrop =>
      split at h
      · cases h
      · next hne =>
        obtain ⟨rfl, rfl⟩ := Prod.mk.inj (Except.ok.inj h)
        have hsplit := List.takeWhile_append_dropWhile (p := (· != '"')) (l := inside)
        rw [hdrop] at hsplit
        have hc : c = '"' := by
          have := List.head?_dropWhile_not (· != '"') inside
          rw [hdrop] at this
          simpa using this
        subst hc
        refine ⟨signed negated (quoted (inside.takeWhile (· != '"'))), ?_, .quoted negated ⟨?_, ?_⟩⟩
        · rw [← hcs, signed_append, ← hsplit]
          simp [quoted, hsplit]
        · simpa using hne
        · intro hmem
          have := List.mem_takeWhile_imp hmem
          simp at this
  · split at h
    · cases h
    · next hne =>
      obtain ⟨rfl, rfl⟩ := Prod.mk.inj (Except.ok.inj h)
      refine ⟨signed negated (body.takeWhile isWordChar), ?_, .word negated ⟨?_, ?_⟩⟩
      · rw [signed_append, List.takeWhile_append_dropWhile, hcs]
      · simpa using hne
      · intro c hc
        exact isWordChar_iff.1 (List.mem_takeWhile_imp hc)

/-- A text is cut after an item in one way only. -/
theorem IsItem.cut_unique {tok tok' rest rest' : List Char} (h : IsItem tok) (h' : IsItem tok')
    (heq : tok ++ rest = tok' ++ rest') (hrest : atBoundary rest = true)
    (hrest' : atBoundary rest' = true) : tok = tok' ∧ rest = rest' := by
  obtain ⟨term, hterm⟩ := h
  obtain ⟨term', hterm'⟩ := h'
  have hread := readTerm_complete hterm hrest
  rw [heq, readTerm_complete hterm' hrest'] at hread
  obtain ⟨-, rfl⟩ := Prod.mk.inj (Except.ok.inj hread)
  exact ⟨List.append_cancel_right heq, rfl⟩

theorem IsItem.head {tok : List Char} (h : IsItem tok) : ∃ c more, tok = c :: more ∧ c ≠ ' ' := by
  obtain ⟨term, hterm⟩ := h
  cases hterm with
  | @word negated text h =>
    obtain ⟨hne, hall⟩ := h
    cases negated with
    | true => exact ⟨'-', text, rfl, by decide⟩
    | false =>
      cases text with
      | nil => exact absurd rfl hne
      | cons c cs => exact ⟨c, cs, rfl, (hall c (by simp)).2.1⟩
  | @quoted negated text h =>
    cases negated with
    | true => exact ⟨'-', _, rfl, by decide⟩
    | false => exact ⟨'"', _, rfl, by decide⟩

/-! ## Filters -/

theorem splitAt_slots {first : List Char} {slots : List (List Char)}
    (h : ∀ slot ∈ first :: slots, ',' ∉ slot) :
    Text.splitAt ',' (first ++ slots.flatMap (',' :: ·)) = first :: slots := by
  induction slots generalizing first with
  | nil =>
    have hfirst := h first (by simp)
    rw [List.flatMap_nil, List.append_nil]
    exact Text.splitAt_of_notMem hfirst
  | cons slot slots ih =>
    have hfirst := h first (by simp)
    rw [List.flatMap_cons, List.cons_append, Text.splitAt_append_cons hfirst]
    rw [ih fun s hs => h s (List.mem_cons_of_mem _ hs)]

theorem eq_slots_of_splitAt {cs first : List Char} {slots : List (List Char)}
    (h : Text.splitAt ',' cs = first :: slots) : cs = first ++ slots.flatMap (',' :: ·) := by
  have hjoin := Text.intercalate_splitAt ',' cs
  rw [h, Text.intercalate_cons] at hjoin
  exact hjoin.symm

/-- In a list of names of letters, the name in front of a colon is the one that is found. -/
theorem readName_complete {names : List String} (hnames : ∀ name ∈ names, ':' ∉ name.toList)
    {name : String} (hname : name ∈ names) (rest : List Char) :
    readName names (name.toList ++ ':' :: rest) = some (name, rest) := by
  cases hread : readName names (name.toList ++ ':' :: rest) with
  | none =>
    have hnone := List.findSome?_eq_none_iff.1 hread name hname
    have htake : takeOff (name.toList ++ [':']) (name.toList ++ ':' :: rest) = some rest :=
      takeOff_eq_some_iff.2 (by simp)
    rw [htake] at hnone
    cases hnone
  | some found =>
    obtain ⟨other, more⟩ := found
    obtain ⟨hother, heq⟩ := readName_eq_some hread
    obtain ⟨hsame, rfl⟩ := Text.cut_unique (hnames name hname) (hnames other hother) heq
    rw [String.toList_inj.1 hsame]

/-- A filter is read back when it ends at a boundary. -/
theorem readFilter_complete {names : List String} (hnames : ∀ name ∈ names, IsLetterName name)
    {tok rest : List Char} {item : FilterItem} (h : WritesFilter names tok item)
    (hrest : atBoundary rest = true) : readFilter names (tok ++ rest) = some (item, rest) := by
  cases h with
  | @mk negated name first slots hname hfirst hletters =>
    set run := first ++ slots.flatMap (',' :: ·) with hrun
    have hsign : readSign (signed negated (name.toList ++ ':' :: run) ++ rest) =
        (negated, name.toList ++ ':' :: (run ++ rest)) := by
      rw [signed_append, List.append_assoc, List.cons_append]
      exact readSign_signed negated ((hnames name hname).head?_ne _)
    have hname' := readName_complete (fun n hn => (hnames n hn).colon_notMem) hname (run ++ rest)
    have hcomma : ∀ slot ∈ first :: slots, ',' ∉ slot := fun slot hslot hc =>
      absurd (hletters slot hslot _ hc) (by decide)
    have hslot : ∀ c ∈ run, isSlotChar c = true := by
      intro c hc
      rcases List.mem_append.1 hc with hc | hc
      · exact letter_isSlotChar (hletters first (by simp) c hc)
      · obtain ⟨slot, hslot, hc⟩ := List.mem_flatMap.1 hc
        rcases List.mem_cons.1 hc with rfl | hc
        · decide
        · exact letter_isSlotChar (hletters slot (List.mem_cons_of_mem _ hslot) c hc)
    have hhead : (run ++ rest).head?.any Char.isAlpha = true := by
      cases hf : first with
      | nil => exact absurd hf hfirst
      | cons c cs =>
        have hc := hletters first (by simp) c (by simp [hf])
        simp [hrun, hf, hc]
    obtain ⟨htake, hdrop⟩ := takeWhile_append_of_boundary hslot (by decide) hrest
    simp only [readFilter, hsign, hname']
    rw [if_pos hhead, htake, hdrop, slotValues, hrun, splitAt_slots hcomma]

/-- What is read as a filter is written as one. -/
theorem readFilter_sound {names : List String} {cs rest : List Char} {item : FilterItem}
    (h : readFilter names cs = some (item, rest)) :
    ∃ tok, cs = tok ++ rest ∧ WritesFilter names tok item := by
  have hcs := signed_readSign cs
  unfold readFilter at h
  rcases hs : readSign cs with ⟨negated, body⟩
  rw [hs] at h hcs
  simp only at h hcs
  split at h
  · cases h
  · next name body' hname =>
    obtain ⟨hmem, hbody⟩ := readName_eq_some hname
    split at h
    · next hhead =>
      obtain ⟨rfl, rfl⟩ := Prod.mk.inj (Option.some.inj h)
      have hsplit := List.takeWhile_append_dropWhile (p := isSlotChar) (l := body')
      set run := body'.takeWhile isSlotChar with hrun
      obtain ⟨first, slots, hslots⟩ := List.exists_cons_of_ne_nil (Text.splitAt_ne_nil ',' run)
      have hjoin := eq_slots_of_splitAt hslots
      have hletters : ∀ slot ∈ first :: slots, ∀ c ∈ slot, c.isAlpha = true := by
        intro slot hslot c hc
        have hcomma : ',' ∉ slot := Text.not_mem_of_mem_splitAt (hslots ▸ hslot)
        have hrunc : c ∈ run := by
          rw [hjoin]
          rcases List.mem_cons.1 hslot with rfl | hslot
          · exact List.mem_append_left _ hc
          · refine List.mem_append_right _ (List.mem_flatMap.2 ⟨slot, hslot, ?_⟩)
            exact List.mem_cons_of_mem _ hc
        have hslotc : isSlotChar c = true := List.mem_takeWhile_imp hrunc
        have hne : c ≠ ',' := fun heq => hcomma (heq ▸ hc)
        simpa [isSlotChar, hne] using hslotc
      have hfirst : first ≠ [] := by
        rintro rfl
        cases hb : body' with
        | nil => simp [hb] at hhead
        | cons c more =>
          have hc : c.isAlpha = true := by simpa [hb] using hhead
          have hrun' : run = c :: more.takeWhile isSlotChar := by
            rw [hrun, hb, List.takeWhile_cons_of_pos (letter_isSlotChar hc)]
          rw [hrun'] at hjoin
          cases slots with
          | nil => simp at hjoin
          | cons slot slots =>
            have : c = ',' := by simpa using (List.cons.inj hjoin).1
            rw [this] at hc
            exact absurd hc (by decide)
      refine ⟨signed negated (name.toList ++ ':' :: run), ?_, ?_⟩
      · rw [← hcs, hbody, signed_append, List.append_assoc, List.cons_append, hsplit]
      · rw [slotValues, hslots, hjoin]
        exact .mk negated hmem hfirst hletters
    · cases h

/-- With names of letters, a filter is written as a word would be. -/
theorem WritesFilter.exists_word {names : List String} (hnames : ∀ name ∈ names, IsLetterName name)
    {tok : List Char} {item : FilterItem} (h : WritesFilter names tok item) :
    ∃ text, tok = signed item.negated text ∧ IsWord text ∧
      WritesFilter names text ⟨item.name, item.values, false⟩ := by
  cases h with
  | @mk negated name first slots hname hfirst hletters =>
    refine ⟨_, rfl, ⟨by simp, ?_⟩, .mk false hname hfirst hletters⟩
    intro c hc
    rcases List.mem_append.1 hc with hc | hc
    · exact letter_isWordChar ((hnames name hname).isAlpha hc)
    · rcases List.mem_cons.1 hc with rfl | hc
      · decide
      · rcases List.mem_append.1 hc with hc | hc
        · exact letter_isWordChar (hletters first (by simp) c hc)
        · obtain ⟨slot, hslot, hc⟩ := List.mem_flatMap.1 hc
          rcases List.mem_cons.1 hc with rfl | hc
          · decide
          · exact letter_isWordChar (hletters slot (List.mem_cons_of_mem _ hslot) c hc)

theorem WritesFilter.isItem {names : List String} (hnames : ∀ name ∈ names, IsLetterName name)
    {tok : List Char} {item : FilterItem} (h : WritesFilter names tok item) : IsItem tok := by
  obtain ⟨text, rfl, hword, -⟩ := h.exists_word hnames
  exact ⟨_, .word item.negated hword⟩

/-! ## Items -/

/-- An item is read as what it means when it ends at a boundary. -/
theorem readItem_complete {names : List String} (hnames : ∀ name ∈ names, IsLetterName name)
    {tok rest : List Char} {node : Node} (h : Denotes names tok node)
    (hrest : atBoundary rest = true) : readItem names (tok ++ rest) = .ok (node, rest) := by
  cases h with
  | @filter item h =>
    have hfilter := readFilter_complete hnames h hrest
    simp [readItem, hfilter, Option.filter, hrest]
  | @term term h hf =>
    have hnone : (readFilter names (tok ++ rest)).filter (atBoundary ·.2) = none := by
      rw [Option.filter_eq_none_iff]
      rintro ⟨item, more⟩ hitem hmore
      obtain ⟨tok', heq, hwrites⟩ := readFilter_sound hitem
      obtain ⟨rfl, -⟩ := IsItem.cut_unique ⟨term, h⟩ (hwrites.isItem hnames) heq hrest hmore
      exact hf item hwrites
    simp [readItem, hnone, readTerm_complete h hrest]

/-- What is read as an item up to a boundary means what was read. -/
theorem readItem_sound {names : List String} (hnames : ∀ name ∈ names, IsLetterName name)
    {cs rest : List Char} {node : Node} (h : readItem names cs = .ok (node, rest))
    (hrest : atBoundary rest = true) : ∃ tok, cs = tok ++ rest ∧ Denotes names tok node := by
  unfold readItem at h
  split at h
  · next item more hitem =>
    obtain ⟨rfl, rfl⟩ := Prod.mk.inj (Except.ok.inj h)
    obtain ⟨tok, htok, hwrites⟩ := readFilter_sound (Option.filter_eq_some_iff.1 hitem).1
    exact ⟨tok, htok, .filter hwrites⟩
  · next hnone =>
    split at h
    · cases h
    · next term more hterm =>
      obtain ⟨rfl, rfl⟩ := Prod.mk.inj (Except.ok.inj h)
      obtain ⟨tok, rfl, hwrites⟩ := readTerm_sound hterm
      refine ⟨tok, rfl, .term hwrites fun item hf => ?_⟩
      rw [readFilter_complete hnames hf hrest] at hnone
      simp [Option.filter, hrest] at hnone

/-- Whatever it means, an item is in the grammar of items. -/
theorem Denotes.isItem {names : List String} (hnames : ∀ name ∈ names, IsLetterName name)
    {tok : List Char} {node : Node} (h : Denotes names tok node) : IsItem tok := by
  cases h with
  | filter h => exact h.isItem hnames
  | term h _ => exact ⟨_, h⟩

theorem Denotes.eq {names : List String} (hnames : ∀ name ∈ names, IsLetterName name)
    {tok : List Char} {node node' : Node} (h : Denotes names tok node)
    (h' : Denotes names tok node') : node = node' := by
  have hread : readItem names (tok ++ []) = .ok (node, []) := readItem_complete hnames h rfl
  rw [readItem_complete hnames h' rfl] at hread
  exact (Prod.mk.inj (Except.ok.inj hread)).1.symm

theorem IsItem.denotes (names : List String) {tok : List Char} (h : IsItem tok) :
    ∃ node, Denotes names tok node := by
  obtain ⟨term, hterm⟩ := h
  by_cases hf : ∃ item, WritesFilter names tok item
  · obtain ⟨item, hitem⟩ := hf
    exact ⟨_, .filter hitem⟩
  · exact ⟨_, .term hterm fun item hitem => hf ⟨item, hitem⟩⟩

end StockQuery.Search
