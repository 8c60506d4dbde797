import StockQuery.Service

/-!
# Entries on one line

What is noted about a search shows the search string and the rest of it in their quoted form, and
filters by quoted names and values. Whatever the search string holds, every character of such an
entry is printable, and so the entry is written on one line.
-/

namespace StockQuery

namespace Text

/-! ## Printable characters -/

/-- From the space to the tilde every character is printable. -/
theorem isPrintable_of_ascii {c : Char} (h : 0x20 ≤ c.toNat ∧ c.toNat ≤ 0x7E) :
    isPrintable c = true := by
  have hspans : ∀ span ∈ unprintableSpans, span.last < 0x20 ∨ 0x7E < span.first := by
    decide +kernel
  rw [isPrintable, inSpans, Bool.not_eq_true', List.any_eq_false]
  intro span hspan
  have hbounds := hspans span hspan
  rw [Span.covers, Bool.and_eq_true, decide_eq_true_eq, decide_eq_true_eq]
  omega

/-- Known characters are printable if they all lie in that range. -/
theorem isPrintable_of_mem {cs : List Char}
    (h : cs.all (fun c => 0x20 ≤ c.toNat && c.toNat ≤ 0x7E) = true) {c : Char} (hc : c ∈ cs) :
    isPrintable c = true := by
  have hbounds := List.all_eq_true.1 h c hc
  rw [Bool.and_eq_true, decide_eq_true_eq, decide_eq_true_eq] at hbounds
  exact isPrintable_of_ascii hbounds

/-- Decimal digits are printable. -/
theorem isPrintable_of_isDigit {c : Char} (h : c.isDigit = true) : isPrintable c = true := by
  rw [Char.isDigit, Bool.and_eq_true, decide_eq_true_eq, decide_eq_true_eq] at h
  have hfirst : 48 ≤ c.toNat := h.1
  have hlast : c.toNat ≤ 57 := h.2
  exact isPrintable_of_ascii (by omega)

/-- So are hexadecimal digits. -/
theorem isPrintable_digitChar {n : Nat} (h : n < 16) : isPrintable n.digitChar = true := by
  have hdigits : ∀ n < 16, 0x20 ≤ n.digitChar.toNat ∧ n.digitChar.toNat ≤ 0x7E := by decide
  exact isPrintable_of_ascii (hdigits n h)

/-- A line feed is not printable. -/
theorem not_isPrintable_lineFeed : isPrintable '\n' = false := by decide

/-! ## Quoted characters -/

/-- A number in hexadecimal digits is printable. -/
theorem isPrintable_of_mem_hexDigits {c : Char} {width n : Nat} (h : c ∈ hexDigits width n) :
    isPrintable c = true := by
  induction width generalizing n with
  | zero => simp [hexDigits] at h
  | succ width ih =>
    rw [hexDigits, List.mem_append, List.mem_singleton] at h
    rcases h with h | rfl
    · exact ih h
    · exact isPrintable_digitChar (Nat.mod_lt n (by decide))

/-- An escape by code point is a backslash, a letter, and hexadecimal digits. -/
theorem hexEscape_eq (c : Char) : ∃ letter ∈ ['x', 'u', 'U'], ∃ width,
    hexEscape c = '\\' :: letter :: hexDigits width c.toNat := by
  rw [hexEscape]
  split
  · exact ⟨'x', by simp, 2, rfl⟩
  · split
    · exact ⟨'u', by simp, 4, rfl⟩
    · exact ⟨'U', by simp, 8, rfl⟩

/-- An escape by code point is printable, whatever it stands for. -/
theorem isPrintable_of_mem_hexEscape {c d : Char} (h : d ∈ hexEscape c) : isPrintable d = true := by
  obtain ⟨letter, hletter, width, heq⟩ := hexEscape_eq c
  rw [heq, List.mem_cons, List.mem_cons] at h
  rcases h with rfl | rfl | h
  · exact isPrintable_of_ascii (by decide)
  · exact isPrintable_of_mem (by decide) hletter
  · exact isPrintable_of_mem_hexDigits h

/-- A mark and a backslash are themselves printable; a character that is not is escaped. -/
theorem isPrintable_of_mem_quoteChar {mark c d : Char} (hmark : isPrintable mark = true)
    (h : d ∈ quoteChar mark c) : isPrintable d = true := by
  have hescape : ∀ letter ∈ ['\\', 'n', 'r', 't'], d ∈ ['\\', letter] → isPrintable d = true := by
    intro letter hletter hd
    rw [List.mem_cons, List.mem_singleton] at hd
    rcases hd with rfl | rfl
    · exact isPrintable_of_ascii (by decide)
    · exact isPrintable_of_mem (by decide) hletter
  rw [quoteChar] at h
  split at h
  · next hc =>
    rcases hc with rfl | rfl
    · rw [List.mem_cons, List.mem_singleton] at h
      rcases h with rfl | rfl
      · exact isPrintable_of_ascii (by decide)
      · exact hmark
    · exact hescape '\\' (by simp) h
  split at h
  · exact hescape 'n' (by simp) h
  split at h
  · exact hescape 'r' (by simp) h
  split at h
  · exact hescape 't' (by simp) h
  split at h
  · next hc => exact List.mem_singleton.1 h ▸ hc
  · exact isPrintable_of_mem_hexEscape h

/-! ## Printable texts -/

/-- A text that shows up as it is. -/
def Printable (s : String) : Prop := ∀ c ∈ s.toList, isPrintable c = true

/-- A text of characters from the space to the tilde is printable. -/
theorem printable_of_ascii {s : String}
    (h : s.toList.all (fun c => 0x20 ≤ c.toNat && c.toNat ≤ 0x7E) = true) : Printable s :=
  fun _ hc => isPrintable_of_mem h hc

/-- A quoted text is printable, whatever is quoted. -/
theorem printable_quote (s : String) : Printable (quote s) := by
  have hmark : isPrintable (quoteMark s.toList) = true := by
    rw [quoteMark]
    split <;> exact isPrintable_of_ascii (by decide)
  intro c hc
  rw [toList_quote, quoteChars, List.mem_append, List.mem_cons, List.mem_singleton,
    List.mem_flatMap] at hc
  rcases hc with (rfl | ⟨d, -, hd⟩) | rfl
  · exact hmark
  · exact isPrintable_of_mem_quoteChar hmark hd
  · exact hmark

/-- Printable texts make up a printable text. -/
theorem Printable.append {s t : String} (hs : Printable s) (ht : Printable t) :
    Printable (s ++ t) := by
  intro c hc
  rw [String.toList_append, List.mem_append] at hc
  exact hc.elim (hs c) (ht c)

/-- Printable texts with a printable text between any two make up a printable text. -/
theorem Printable.intercalate {sep : String} (hsep : Printable sep) {texts : List String}
    (h : ∀ text ∈ texts, Printable text) : Printable (String.intercalate sep texts) := by
  induction texts with
  | nil => simp [Printable]
  | cons text more ih =>
    have htext := h text List.mem_cons_self
    have hmore := ih fun other hother => h other (List.mem_cons_of_mem _ hother)
    cases more with
    | nil => simpa using htext
    | cons next rest =>
      rw [String.intercalate_cons_cons]
      exact (htext.append hsep).append hmore

/-- A number in decimal digits is printable. -/
theorem printable_nat (n : Nat) : Printable (toString n) := by
  intro c hc
  have hdigit : c ∈ Nat.toDigits 10 n := by simpa using hc
  exact isPrintable_of_isDigit (Nat.isDigit_of_mem_toDigits (by decide) (by decide) hdigit)

/-- So is a number with a sign. -/
theorem printable_int (n : Int) : Printable (toString n) := by
  cases n with
  | ofNat n => exact printable_nat n
  | negSucc n => exact (printable_of_ascii (s := "-") (by decide)).append (printable_nat (n + 1))

/-- A printable text is a single line. -/
theorem Printable.split_lineFeed {s : String} (h : Printable s) : split '\n' s = [s] := by
  have hfeed : '\n' ∉ s.toList := by
    intro hmem
    have hprintable := h '\n' hmem
    rw [not_isPrintable_lineFeed] at hprintable
    exact absurd hprintable (by decide)
  rw [split, splitAt_of_notMem hfeed]
  simp

end Text

open Text

/-! ## What is shown of a search -/

/-- What is wrong with a search string is told in printable words. -/
theorem Fault.printable_message (fault : Fault) : Printable fault.message := by
  cases fault with
  | missingSpace => exact printable_of_ascii (by decide)
  | missingTerm => exact printable_of_ascii (by decide)
  | openQuote => exact printable_of_ascii (by decide)
  | emptyQuote => exact printable_of_ascii (by decide)
  | tooManyTerms limit =>
    have hbefore : Printable "too many search terms (at most " := printable_of_ascii (by decide)
    have hafter : Printable " unquoted terms)" := printable_of_ascii (by decide)
    exact (hbefore.append (printable_int limit)).append hafter

/-- A rejection is told in printable words: the part of the search string is quoted. -/
theorem Rejection.printable_summary (rejection : Rejection) : Printable rejection.summary := by
  have hat : Printable " at position " := printable_of_ascii (by decide)
  have hcolon : Printable ": " := printable_of_ascii (by decide)
  exact (((rejection.fault.printable_message.append hat).append (printable_int _)).append
    hcolon).append (printable_quote _)

/-- A filter value is logged quoted. -/
theorem Criterion.printable_shown (value : Criterion) : Printable value.shown := by
  cases value with
  | plain value => exact printable_quote value
  | negated value =>
    have hbefore : Printable "Negated(value=" := printable_of_ascii (by decide)
    exact (hbefore.append (printable_quote value)).append (printable_of_ascii (by decide))

/-- The values of a filter are logged quoted. -/
theorem printable_shownValues (values : List Criterion) : Printable (shownValues values) := by
  have hcomma : Printable ", " := printable_of_ascii (by decide)
  have hvalues : Printable (String.intercalate ", " (values.map Criterion.shown)) := by
    refine hcomma.intercalate fun text htext => ?_
    obtain ⟨value, -, rfl⟩ := List.mem_map.1 htext
    exact value.printable_shown
  have hlast : Printable (if values.length = 1 then "," else "") := by
    split <;> exact printable_of_ascii (by decide)
  have hopen : Printable "(" := printable_of_ascii (by decide)
  exact ((hopen.append hvalues).append hlast).append (printable_of_ascii (by decide))

/-- Filters are logged with their names and values quoted. -/
theorem Filters.printable_shown (filters : Filters) : Printable filters.shown := by
  have hcomma : Printable ", " := printable_of_ascii (by decide)
  have hcolon : Printable ": " := printable_of_ascii (by decide)
  have hopen : Printable "\x7b" := printable_of_ascii (by decide)
  have hclose : Printable "\x7d" := printable_of_ascii (by decide)
  rw [Filters.shown]
  refine (hopen.append (hcomma.intercalate fun text htext => ?_)).append hclose
  obtain ⟨⟨name, values⟩, -, rfl⟩ := List.mem_map.1 htext
  exact ((printable_quote name).append hcolon).append (printable_shownValues values)

/-- Of a statement only a number is logged. -/
theorem printable_shownStatement (statement : Option Statement) :
    Printable (shownStatement statement) := by
  cases statement with
  | none => exact printable_of_ascii (by decide)
  | some statement => exact (printable_nat _).append (printable_of_ascii (by decide))

/-! ## Entries -/

/-- The entry about a rejected search string is printable. -/
theorem printable_rejectedEntry (raw : String) (rejection : Rejection) :
    Printable (rejectedEntry raw rejection).message := by
  have hbefore : Printable "Rejected search " := printable_of_ascii (by decide)
  have hcolon : Printable ": " := printable_of_ascii (by decide)
  exact ((hbefore.append (printable_quote raw)).append hcolon).append rejection.printable_summary

/-- The entry about a prepared search is printable. -/
theorem printable_preparedEntry (raw : String) (plan : SearchPlan) :
    Printable (preparedEntry raw plan).message := by
  have hbefore : Printable "Prepared search " := printable_of_ascii (by decide)
  have hfilters : Printable " filters=" := printable_of_ascii (by decide)
  have hstatement : Printable " statement=" := printable_of_ascii (by decide)
  exact ((((hbefore.append (printable_quote raw)).append hfilters).append
    plan.query.filters.printable_shown).append hstatement).append (printable_shownStatement _)

/-- The entry about the rows that were found is printable. -/
theorem printable_matchedEntry (raw : String) (count : Nat) :
    Printable (matchedEntry raw count).message := by
  have hbefore : Printable "Search " := printable_of_ascii (by decide)
  have hmatched : Printable " matched " := printable_of_ascii (by decide)
  exact (((hbefore.append (printable_quote raw)).append hmatched).append
    (printable_nat count)).append (printable_of_ascii (by decide))

/-- Each level is abbreviated in printable letters. -/
theorem Level.printable_abbreviation (level : Level) : Printable level.abbreviation := by
  rw [Level.abbreviation]
  split
  · exact printable_of_ascii (by decide)
  split
  · exact printable_of_ascii (by decide)
  split
  · exact printable_of_ascii (by decide)
  split
  · exact printable_of_ascii (by decide)
  split <;> exact printable_of_ascii (by decide)

/-- An entry with a printable message is written on one line. -/
theorem LogEntry.lines_eq_singleton {entry : LogEntry} (h : Printable entry.message) :
    entry.lines = ["[" ++ entry.level.abbreviation ++ "] " ++ entry.message] := by
  have hopen : Printable "[" := printable_of_ascii (by decide)
  have hclose : Printable "] " := printable_of_ascii (by decide)
  exact (((hopen.append entry.level.printable_abbreviation).append hclose).append h).split_lineFeed

end StockQuery
