import Mathlib.Data.List.Perm.Subperm
import StockQuery.Proofs.Discipline

/-!
# Columns of a row

A row that an executor returns is kept by the keys of its columns. Two columns may have the same
key. Their common key then stands where the first of them stood, and its value is that of the last
one, so that something is lost exactly if two columns have the same key; a row without such columns
is kept as it is but for the names. Apart from that a search hands on the rows of the executor, as
many as there are and in their order.
-/

namespace StockQuery

variable {α : Type}

/-- No pair is lost exactly when no key occurs twice. -/
theorem Entries.length_ofPairs_eq_iff {pairs : List (String × α)} :
    (ofPairs pairs).length = pairs.length ↔ (pairs.map Prod.fst).Nodup := by
  constructor
  · intro hlength
    have hsubset : keys (ofPairs pairs) ⊆ pairs.map Prod.fst := by
      rw [keys_ofPairs]
      exact fun key hkey => List.mem_eraseDups.1 hkey
    have hle : (pairs.map Prod.fst).length ≤ (keys (ofPairs pairs)).length := by
      simp [keys, hlength]
    have hperm := ((nodup_keys_ofPairs pairs).subperm hsubset).perm_of_length_le hle
    exact hperm.nodup_iff.1 (nodup_keys_ofPairs pairs)
  · intro hdistinct
    rw [ofPairs_of_nodup hdistinct]

/-- An entry is there if it is the last one that was set under its key. -/
theorem Entries.mem_ofPairs_iff {pairs : List (String × α)} {key : String} {value : α} :
    (key, value) ∈ ofPairs pairs ↔ ∃ before after,
      pairs = before ++ (key, value) :: after ∧ ∀ pair ∈ after, pair.1 ≠ key := by
  have hlookup : (key, value) ∈ ofPairs pairs ↔ pairs.reverse.lookup key = some value := by
    rw [← lookup_ofPairs]
    exact ⟨lookup_of_mem (nodup_keys_ofPairs pairs), mem_of_lookup⟩
  rw [hlookup, List.lookup_eq_some_iff]
  constructor
  · rintro ⟨after, before, hpairs, hafter⟩
    refine ⟨before.reverse, after.reverse, ?_, ?_⟩
    · rw [← List.reverse_reverse pairs, hpairs]
      simp
    · intro pair hpair
      have hne := hafter pair (List.mem_reverse.1 hpair)
      exact fun heq => by simp [heq] at hne
  · rintro ⟨before, after, rfl, hafter⟩
    refine ⟨after.reverse, before.reverse, by simp, ?_⟩
    intro pair hpair
    exact bne_iff_ne.2 (Ne.symm (hafter pair (List.mem_reverse.1 hpair)))

/-! ## One row -/

namespace Row

/-- The keys of the columns, one for each column. -/
def columnKeys (row : Row α) : List String := row.map fun column => columnKey column.1

/-- The row under the keys of its columns, with a key as often as it comes. -/
def renamed (row : Row α) : Row α := row.map fun column => (columnKey column.1, column.2)

/-- What is kept of a row. -/
structure KeptAs (row kept : Row α) : Prop where
  /-- The keys are there once each, in the order in which they first appear. -/
  keys : Entries.keys kept = row.columnKeys.eraseDups
  /-- A key has the value of the last column with this key. -/
  values : ∀ key value, (key, value) ∈ kept ↔ ∃ before name after,
    row = before ++ (name, value) :: after ∧ columnKey name = key ∧
      ∀ column ∈ after, columnKey column.1 ≠ key
  /-- As many entries are left as there were if the columns have different keys, and only then. -/
  length : kept.length = row.length ↔ row.columnKeys.Nodup
  /-- Nothing but the names has changed then. -/
  whole : kept.length = row.length → kept = row.renamed

theorem keys_renamed (row : Row α) : row.renamed.map Prod.fst = row.columnKeys := by
  rw [renamed, List.map_map]
  rfl

theorem length_renamed (row : Row α) : row.renamed.length = row.length := List.length_map _

theorem keyed_eq (row : Row α) : row.keyed = Entries.ofPairs row.renamed := rfl

/-- A row keeps all its columns exactly when their keys differ. -/
theorem length_keyed_eq_iff {row : Row α} :
    row.keyed.length = row.length ↔ row.columnKeys.Nodup := by
  rw [keyed_eq, ← length_renamed row, Entries.length_ofPairs_eq_iff, keys_renamed]

/-- The value under a key is that of the last column with this key. -/
theorem mem_keyed_iff {row : Row α} {key : String} {value : α} :
    (key, value) ∈ row.keyed ↔ ∃ before name after,
      row = before ++ (name, value) :: after ∧ columnKey name = key ∧
        ∀ column ∈ after, columnKey column.1 ≠ key := by
  rw [keyed_eq, Entries.mem_ofPairs_iff]
  constructor
  · rintro ⟨before, after, hrow, hafter⟩
    obtain ⟨first, rest, rfl, rfl, hrest⟩ := List.map_eq_append_iff.1 hrow
    obtain ⟨⟨name, kept⟩, last, rfl, hcolumn, rfl⟩ := List.map_eq_cons_iff.1 hrest
    rw [Prod.mk.injEq] at hcolumn
    obtain ⟨hname, rfl⟩ := hcolumn
    refine ⟨first, name, last, rfl, hname, fun column hcolumn => ?_⟩
    exact hafter (columnKey column.1, column.2) (List.mem_map.2 ⟨column, hcolumn, rfl⟩)
  · rintro ⟨before, name, after, rfl, rfl, hafter⟩
    refine ⟨renamed before, renamed after, by simp [renamed], ?_⟩
    intro pair hpair
    obtain ⟨column, hcolumn, rfl⟩ := List.mem_map.1 hpair
    exact hafter column hcolumn

/-- What `keyed` leaves of a row is what is asked of a kept row. -/
theorem keptAs_keyed (row : Row α) : row.KeptAs row.keyed where
  keys := by rw [keyed_eq, Entries.keys_ofPairs, keys_renamed]
  values _ _ := mem_keyed_iff
  length := length_keyed_eq_iff
  whole h := by
    have hdistinct := length_keyed_eq_iff.1 h
    rw [← keys_renamed] at hdistinct
    exact Entries.ofPairs_of_nodup hdistinct

theorem forall₂_keptAs (rows : List (Row α)) :
    List.Forall₂ KeptAs rows (rows.map keyed) := by
  rw [List.forall₂_map_right_iff]
  exact List.forall₂_same.2 fun row _ => row.keptAs_keyed

end Row

/-! ## Searches -/

theorem SearchOptions.exists_plan_of_statement? {options : SearchOptions} {raw : String}
    {statement : Statement} (h : options.statement? raw = some statement) :
    ∃ plan, options.prepare raw = .ok plan ∧ plan.statement = some statement := by
  unfold statement? at h
  split at h
  · next plan hplan => exact ⟨plan, hplan, h⟩
  · cases h

namespace Service

/-- A search with a statement that the executor answers with rows finds these rows, each of them
kept by the keys of its columns, and there are no other rows in a search that does not fail. -/
theorem search_keeps_rows (service : Service α) (raw : String) :
    (∀ statement rows, service.options.statement? raw = some statement →
      service.next = some (.rows rows) →
      ∃ found, (service.search raw).1.reply = .searched (.ok (.found statement found)) ∧
        List.Forall₂ Row.KeptAs rows found) ∧
    ∀ finding, (service.search raw).1.reply = .searched (.ok finding) →
      (finding.statement? = none ∧ finding.rows = []) ∨
      ∃ statement rows, finding.statement? = some statement ∧
        service.options.statement? raw = some statement ∧ service.next = some (.rows rows) ∧
        List.Forall₂ Row.KeptAs rows finding.rows := by
  constructor
  · intro statement rows hstatement hnext
    obtain ⟨plan, hplan, hsome⟩ := SearchOptions.exists_plan_of_statement? hstatement
    refine ⟨rows.map Row.keyed, ?_, Row.forall₂_keptAs rows⟩
    rw [search_of_statement hplan hsome, execute_of_rows hnext]
  · intro finding hreply
    obtain ⟨⟨outcome, hsearch⟩, -⟩ := service.search_disciplined raw
    have houtcome : outcome = .ok finding :=
      Reply.searched.inj (hsearch.reply.symm.trans hreply)
    obtain ⟨ending, hends, -⟩ := hsearch.ending finding houtcome
    cases ending with
    | rejected => exact .inl ⟨hends.2.2.1, hends.2.1⟩
    | idle => exact .inl ⟨hends.2.2.1, hends.2.1⟩
    | ran =>
      obtain ⟨statement, rows, hstatement, hnext, -, hrows, hran, -⟩ := hends
      refine .inr ⟨statement, rows, hran, hstatement, hnext, ?_⟩
      rw [hrows]
      exact Row.forall₂_keptAs rows

/-- Of three columns the first and the last have one key. -/
theorem search_keeps_rows_collision :
    let service : Service Nat :=
      ⟨{}, some [.rows [[("STATUS_CODE", 1), ("part", 2), ("Status-Code", 3)]]]⟩
    ∃ statement kept, service.options.statement? "bolt" = some statement ∧
      service.next = some (.rows [[("STATUS_CODE", 1), ("part", 2), ("Status-Code", 3)]]) ∧
      (service.search "bolt").1.reply = .searched (.ok (.found statement [kept])) ∧
      Entries.keys kept = ["status-code", "part"] ∧ ("status-code", 3) ∈ kept := by
  intro service
  have hsome : (service.options.statement? "bolt").isSome = true := by decide +kernel
  obtain ⟨statement, hstatement⟩ := Option.isSome_iff_exists.1 hsome
  obtain ⟨found, hreply, -⟩ := (service.search_keeps_rows "bolt").1 statement _ hstatement rfl
  rcases (service.search_keeps_rows "bolt").2 _ hreply with
    ⟨hnone, -⟩ | ⟨_, rows, -, -, hnext, hrows⟩
  · cases hnone
  · cases hnext
    obtain ⟨kept, _, hkept, ⟨⟩, rfl⟩ := List.forall₂_cons_left_iff.1 hrows
    refine ⟨statement, kept, hstatement, rfl, hreply, ?_, ?_⟩
    · rw [hkept.keys]
      decide +kernel
    · refine (hkept.values _ _).2 ⟨[("STATUS_CODE", 1), ("part", 2)], "Status-Code", [], rfl, ?_⟩
      decide +kernel

end Service

end StockQuery
