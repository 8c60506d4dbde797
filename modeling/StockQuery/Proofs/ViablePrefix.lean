import StockQuery.Proofs.Faults

/-!
# Rejections point at the first mistake

A search string is turned down at the first place at which it cannot be right any more. What stands
in front of the place is accepted, at most with one more letter. From the place on two characters
settle that nothing can help, unless the text is only unfinished: a quotation mark is open or a term
is missing at the very end.

Both halves are about the place where the text halts (`Halts`). The items in front of it play no
part, so every property is shown for the item that goes wrong and carried over the items before it,
once for what is accepted (`Halts.exists_reads`) and once for what is not (`Halts.of_breaks`).
-/

namespace StockQuery

/-- The search string is only unfinished: a quotation mark is open, or the place is its end. -/
def Rejection.Unfinished (r : Rejection) (raw : String) : Prop :=
  r.fault.message = "unterminated quoted term" ∨ r.position = raw.length

theorem Fault.message_eq_openQuote_iff {fault : Fault} :
    fault.message = "unterminated quoted term" ↔ fault = .openQuote := by
  cases fault with
  | missingSpace => decide
  | missingTerm => decide
  | openQuote => decide
  | emptyQuote => decide
  | tooManyTerms limit =>
    refine iff_of_false (fun heq => ?_) nofun
    have hmessage : (Fault.tooManyTerms limit).message =
        "too many search terms (at most " ++ toString limit ++ " unquoted terms)" := rfl
    have hhead : (Fault.tooManyTerms limit).message.toList.head? = some 't' := by
      rw [hmessage, String.toList_append, String.toList_append]
      simp
    rw [heq] at hhead
    simp at hhead

namespace Search

/-- The search string is read as a tree. -/
def Accepts (names : List String) (s : String) : Prop := ∃ tree, parse names none s = .ok tree

/-- The text is a series of items. -/
def Reads (names : List String) (cs : List Char) : Prop := ∃ items, Series names cs items

variable {names : List String} {before rest : List Char} {fault : Fault}

/-! ## Texts that are read -/

theorem Reads.spaces_append {cs : List Char} (h : Reads names cs) (n : Nat) :
    Reads names (spaces n ++ cs) := by
  obtain ⟨items, hseries⟩ := h
  exact ⟨items, hseries.spaces_append n⟩

/-- An item may be put in front of a text that starts at a boundary. -/
theorem Reads.item_append {tok : List Char} (h : Reads names rest) (htok : IsItem tok)
    (hboundary : atBoundary rest = true) : Reads names (tok ++ rest) := by
  obtain ⟨items, hseries⟩ := h
  obtain ⟨node, hnode⟩ := htok.denotes names
  exact ⟨_, .item 0 hnode hboundary hseries⟩

theorem reads_item (names : List String) {tok : List Char} (h : IsItem tok) : Reads names tok := by
  have hnil : Reads names [] := ⟨[], .done 0⟩
  rw [← List.append_nil tok]
  exact hnil.item_append h rfl

theorem Reads.accepts (hnames : ∀ name ∈ names, IsLetterName name) {s : String}
    (h : Reads names s.toList) : Accepts names s := by
  obtain ⟨items, hseries⟩ := h
  cases hblank : Text.allBlank s with
  | true => exact ⟨[], parse_of_allBlank names none hblank⟩
  | false =>
    have hread := readItems_complete hnames hseries
    exact ⟨_, (parse_eq_ok_iff hblank).2 ⟨items, hread, rfl, rfl⟩⟩

/-! ## In front of a fault -/

/-- If what goes wrong can be written on so that it is read, so can the whole text. -/
theorem Halts.exists_reads {P : List Char → Prop} (h : Halts before fault rest)
    (hbreaks : ∀ broken, Breaks broken fault rest → ∃ more, P more ∧ Reads names (broken ++ more)) :
    ∃ more, P more ∧ Reads names (before ++ more) := by
  induction h with
  | here n hbroken =>
    obtain ⟨more, hmore, hreads⟩ := hbreaks _ hbroken
    refine ⟨more, hmore, ?_⟩
    rw [List.append_assoc]
    exact hreads.spaces_append n
  | later n htok _ ih =>
    obtain ⟨more, hmore, hreads⟩ := ih hbreaks
    refine ⟨more, hmore, ?_⟩
    rw [List.append_assoc, List.append_assoc]
    exact (hreads.item_append htok rfl).spaces_append n

/-- A letter makes a sign a negated term. -/
theorem isItem_signed_letter (negated : Bool) : IsItem (signed negated ['x']) :=
  ⟨_, .word negated ⟨by simp, by simp⟩⟩

theorem Breaks.exists_reads_before (names : List String) (h : Breaks before fault rest) :
    ∃ more, (more = [] ∨ more = ['x']) ∧ Reads names (before ++ more) := by
  have hsign : ∀ negated, Reads names (signed negated [] ++ ['x']) := by
    intro negated
    rw [signed_append]
    exact reads_item names (isItem_signed_letter negated)
  cases h with
  | missingTerm _ => exact ⟨['x'], .inr rfl, hsign true⟩
  | openQuote negated _ => exact ⟨['x'], .inr rfl, hsign negated⟩
  | emptyQuote negated rest => exact ⟨['x'], .inr rfl, hsign negated⟩
  | word negated hword _ rest =>
    refine ⟨[], .inl rfl, ?_⟩
    rw [List.append_nil]
    exact reads_item names ⟨_, .word negated hword⟩
  | quoted negated hquoted _ rest =>
    refine ⟨[], .inl rfl, ?_⟩
    rw [List.append_nil]
    exact reads_item names ⟨_, .quoted negated hquoted⟩

/-! ## Texts that are not finished -/

/-- An open quotation mark can be closed, and a term can be added at the end of the text. -/
theorem Breaks.exists_reads_after (names : List String) (h : Breaks before fault rest)
    (hopen : fault = .openQuote ∨ rest = []) :
    ∃ more, rest <+: more ∧ Reads names (before ++ more) := by
  cases h with
  | missingTerm _ =>
    obtain rfl : rest = [] := by simpa using hopen
    exact ⟨['x'], List.nil_prefix, reads_item names (isItem_signed_letter true)⟩
  | @openQuote negated inside hinside =>
    -- the letter is for a quotation mark with nothing behind it
    refine ⟨Search.quoted (inside ++ ['x']), ⟨['x', '"'], by simp [Search.quoted]⟩, ?_⟩
    have hquotable : IsQuotable (inside ++ ['x']) := ⟨by simp, by simpa using hinside⟩
    rw [signed_append]
    exact reads_item names ⟨_, .quoted negated hquotable⟩
  | emptyQuote => simp at hopen
  | word => simp at hopen
  | quoted => simp at hopen

/-! ## Texts that cannot be helped -/

/-- If what goes wrong still goes wrong with another text behind it, so does the whole text. -/
theorem Halts.of_breaks {rest' : List Char} (h : Halts before fault rest)
    (hbreaks : ∀ broken, Breaks broken fault rest → Breaks broken fault rest') :
    Halts before fault rest' := by
  induction h with
  | here n hbroken => exact .here n (hbreaks _ hbroken)
  | later n htok _ ih => exact .later n htok (ih hbreaks)

/-- Two characters show what is wrong. -/
theorem Breaks.of_take_prefix {rest' : List Char} (h : Breaks before fault rest)
    (hfault : fault ≠ .openQuote) (hne : rest ≠ []) (hstart : rest.take 2 <+: rest') :
    Breaks before fault rest' := by
  have hhead : ∀ {c : Char} {cs : List Char}, rest = c :: cs → ∃ more, rest' = c :: more := by
    rintro c cs rfl
    obtain ⟨more, rfl⟩ := hstart
    exact ⟨_, rfl⟩
  cases h with
  | missingTerm h =>
    rcases h with hnil | ⟨cs, hspace | hhyphen⟩
    · exact absurd hnil hne
    · obtain ⟨more, hmore⟩ := hhead hspace
      exact .missingTerm (.inr ⟨more, .inl hmore⟩)
    · obtain ⟨more, hmore⟩ := hhead hhyphen
      exact .missingTerm (.inr ⟨more, .inr hmore⟩)
  | openQuote => exact absurd rfl hfault
  | emptyQuote negated cs =>
    obtain ⟨more, rfl⟩ := hstart
    exact .emptyQuote negated more
  | word negated hword hc cs =>
    obtain ⟨more, rfl⟩ := hhead rfl
    exact .word negated hword hc more
  | quoted negated hquoted hc cs =>
    obtain ⟨more, rfl⟩ := hhead rfl
    exact .quoted negated hquoted hc more

theorem Breaks.exists_not_blank (h : Breaks before fault rest) :
    ∃ c ∈ before ++ rest, Text.isBlank c = false := by
  have hhyphen : Text.isBlank '-' = false := by decide
  have hquote : Text.isBlank '"' = false := by decide
  cases h with
  | missingTerm _ => exact ⟨'-', by simp, hhyphen⟩
  | openQuote negated _ => exact ⟨'"', by simp, hquote⟩
  | emptyQuote negated rest => exact ⟨'"', by simp, hquote⟩
  | word negated _ hc rest =>
    refine ⟨_, List.mem_append_right _ List.mem_cons_self, ?_⟩
    rcases hc with rfl | rfl
    · exact hquote
    · exact hhyphen
  | quoted negated _ _ rest =>
    refine ⟨'"', List.mem_append_left _ ?_, hquote⟩
    exact (mem_signed (by decide)).2 List.mem_cons_self

theorem Halts.exists_not_blank (h : Halts before fault rest) :
    ∃ c ∈ before ++ rest, Text.isBlank c = false := by
  induction h with
  | here n hbroken =>
    obtain ⟨c, hc, hblank⟩ := hbroken.exists_not_blank
    rw [List.append_assoc]
    exact ⟨c, List.mem_append_right _ hc, hblank⟩
  | later n _ _ ih =>
    obtain ⟨c, hc, hblank⟩ := ih
    rw [List.append_assoc, List.append_assoc]
    exact ⟨c, List.mem_append_right _ (List.mem_append_right _ hc), hblank⟩

theorem Halts.not_accepts (hnames : ∀ name ∈ names, IsLetterName name)
    (h : Halts before fault rest) {s : String} (hs : s.toList = before ++ rest) :
    ¬ Accepts names s := by
  rintro ⟨tree, htree⟩
  rcases cases_of_parse_ok htree with ⟨hblank, -⟩ | ⟨items, hread, -, -⟩
  · obtain ⟨c, hc, hnot⟩ := h.exists_not_blank
    rw [← hs] at hc
    rw [List.all_eq_true.1 hblank c hc] at hnot
    cases hnot
  · rw [(readItems_eq_error_iff hnames).2 ⟨before, hs, h⟩] at hread
    cases hread

/-! ## Rejections -/

/-- A rejection tells where the text halts. -/
theorem halts_of_parse_error (hnames : ∀ name ∈ names, IsLetterName name) {raw : String}
    {r : Rejection} (h : parse names none raw = .error r) :
    ∃ before rest, raw.toList = before ++ rest ∧ Halts before r.fault rest ∧
      r.position = before.length ∧ r.fragment = String.ofList rest := by
  unfold parse at h
  split at h
  · cases h
  · split at h
    · next stop hstop =>
      obtain rfl := Except.error.inj h
      obtain ⟨before, htext, hhalts⟩ := (readItems_eq_error_iff hnames).1 hstop
      refine ⟨before, stop.rest, htext, hhalts, ?_, rfl⟩
      have hlength := congrArg List.length htext
      rw [List.length_append, String.length_toList] at hlength
      show raw.length - stop.rest.length = before.length
      omega
    · cases h

/-- The place of a rejection is exact. The fragment is what stands from there on. What stands in
front of it is accepted, as it is or with an `x` behind it. Either the search string is only
unfinished and some longer one is accepted, or none is accepted that agrees with it up to the second
character from the place on. -/
theorem rejection_at_viable_prefix {names : List String}
    (hnames : ∀ name ∈ names, IsLetterName name) {raw : String} {r : Rejection}
    (h : parse names none raw = .error r) :
    (r.position ≤ raw.length ∧ r.fragment = String.ofList (raw.toList.drop r.position)) ∧
    (Accepts names (String.ofList (raw.toList.take r.position)) ∨
      Accepts names (String.ofList (raw.toList.take r.position) ++ "x")) ∧
    (r.Unfinished raw ∧ (∃ more, Accepts names (raw ++ more)) ∨
      ¬ r.Unfinished raw ∧
        ∀ s : String, raw.toList.take (r.position + 2) <+: s.toList → ¬ Accepts names s) := by
  obtain ⟨before, rest, htext, hhalts, hposition, hfragment⟩ := halts_of_parse_error hnames h
  have hlength : raw.length = before.length + rest.length := by
    rw [← String.length_toList, htext, List.length_append]
  have hend : r.position = raw.length ↔ rest = [] := by
    rw [hposition, hlength, ← List.length_eq_zero_iff]
    omega
  have htake : raw.toList.take r.position = before := by rw [htext, hposition, List.take_left]
  have hdrop : raw.toList.drop r.position = rest := by rw [htext, hposition, List.drop_left]
  refine ⟨⟨by omega, by rw [hdrop, hfragment]⟩, ?_, ?_⟩
  · obtain ⟨more, hmore, hreads⟩ := hhalts.exists_reads fun broken hbroken =>
      hbroken.exists_reads_before names
    rw [htake]
    rcases hmore with rfl | rfl
    · left
      apply Reads.accepts hnames
      simpa using hreads
    · right
      apply Reads.accepts hnames
      simpa using hreads
  · rw [Rejection.Unfinished, Fault.message_eq_openQuote_iff, hend]
    by_cases hopen : r.fault = .openQuote ∨ rest = []
    · obtain ⟨_, ⟨more, rfl⟩, hreads⟩ := hhalts.exists_reads fun broken hbroken =>
        hbroken.exists_reads_after names hopen
      refine .inl ⟨hopen, String.ofList more, Reads.accepts hnames ?_⟩
      simpa [htext] using hreads
    · refine .inr ⟨hopen, fun s hstart => ?_⟩
      rw [not_or] at hopen
      have hsplit : raw.toList.take (r.position + 2) = before ++ rest.take 2 := by
        rw [htext, hposition, List.take_length_add_append]
      rw [hsplit] at hstart
      obtain ⟨more, hmore⟩ := hstart
      rw [List.append_assoc] at hmore
      have hstill : Halts before r.fault (rest.take 2 ++ more) := hhalts.of_breaks
        fun broken hbroken => hbroken.of_take_prefix hopen.1 hopen.2 (List.prefix_append _ more)
      exact hstill.not_accepts hnames hmore.symm

/-- Quotation marks with nothing between them cannot be helped. -/
theorem rejection_at_viable_prefix_empty_quote :
    (∀ name ∈ filterNames, IsLetterName name) ∧
    parse filterNames none "planner:ab -\"\"c" = .error ⟨.emptyQuote, 12, "\"\"c"⟩ ∧
    Accepts filterNames "planner:ab -x" ∧
    ∀ s : String, "planner:ab -\"\"".toList <+: s.toList → ¬ Accepts filterNames s := by
  have hread : parse filterNames none "planner:ab -\"\"c" = .error ⟨.emptyQuote, 12, "\"\"c"⟩ := by
    decide +kernel
  obtain ⟨-, haccepts, hrest⟩ := rejection_at_viable_prefix isLetterName_of_mem_filterNames hread
  refine ⟨isLetterName_of_mem_filterNames, hread, ?_, ?_⟩
  · have hsign : parse filterNames none "planner:ab -" = .error ⟨.missingTerm, 12, ""⟩ := by
      decide +kernel
    rcases haccepts with ⟨tree, htree⟩ | hletter
    · rw [show String.ofList _ = "planner:ab -" by decide +kernel, hsign] at htree
      cases htree
    · exact hletter
  · rcases hrest with ⟨hunfinished, -⟩ | ⟨-, hnone⟩
    · rcases hunfinished with hmessage | hend
      · exact absurd hmessage (by decide)
      · exact absurd hend (by decide)
    · exact hnone

end Search

end StockQuery
