import StockQuery.Proofs.Acceptance

/-!
# Empty headings

A settings file may have a heading with nothing under it. Laid over other settings, such a heading
clears the section below it, whatever that holds: the section is then missing, or is read with its
defaults if it may be left out. This is so although a section that is set to nothing counts as
missing where it is read. Reading depends on the sections that are not set to nothing only
(`Config.read_congr`), from which all else follows.
-/

namespace StockQuery

/-- Whether a setting is nothing. -/
def Setting.isNull : Setting → Bool
  | .null => true
  | _ => false

namespace Section

/-- Whether a section sets a key to nothing. -/
def clears (upper : Section) (key : String) : Bool := (upper.lookup key).any Setting.isNull

/-- The section without the keys that another one, or the section itself, sets to nothing. -/
def uncleared (entries upper : Section) : Section :=
  entries.filter fun entry => !upper.clears entry.1

/-- A section that is not set to nothing. -/
def stated? (root : Section) (name : String) : Option Setting :=
  (root.lookup name).filter fun value => !value.isNull

variable {root other lower upper : Section} {name : String}

/-- A heading is cleared by a null in the upper section, and by nothing else. -/
theorem clears_iff : upper.clears name = true ↔ upper.lookup name = some .null := by
  unfold clears
  cases upper.lookup name with
  | none => simp
  | some value => cases value <;> simp [Setting.isNull]

/-- Without the cleared headings, every other one is found as before. -/
theorem lookup_uncleared (entries upper : Section) (name : String) :
    (entries.uncleared upper).lookup name =
      if upper.clears name then none else entries.lookup name := by
  unfold uncleared
  induction entries with
  | nil => simp
  | cons entry rest ih =>
    obtain ⟨key, value⟩ := entry
    by_cases hname : name = key
    · subst hname
      cases hclears : upper.clears name with
      | true =>
        rw [hclears] at ih
        rw [List.filter_cons_of_neg (by simp [hclears]), ih]
        rfl
      | false =>
        rw [List.filter_cons_of_pos (by simp [hclears]), List.lookup_cons_self,
          List.lookup_cons_self]
        rfl
    · rw [List.lookup_cons, beq_false_of_ne hname, List.filter_cons]
      split
      · rw [List.lookup_cons, beq_false_of_ne hname]
        exact ih
      · exact ih

theorem nodup_keys_uncleared (h : (Entries.keys lower).Nodup) (upper : Section) :
    (Entries.keys (lower.uncleared upper)).Nodup :=
  h.sublist (List.filter_sublist.map Prod.fst)

/-! ## What is read -/

/-- A required section depends only on what is stated for its heading. -/
theorem required_congr (h : root.stated? name = other.stated? name) :
    root.required name = other.required name := by
  have hread : ∀ entries : Section, entries.required name =
      (entries.stated? name).elim (.error (.missing name)) fun value => value.asObject name := by
    intro entries
    unfold required stated?
    cases entries.lookup name with
    | none => rfl
    | some value => cases value <;> rfl
  rw [hread root, hread other, h]

/-- So does an optional one. -/
theorem optional_congr (h : root.stated? name = other.stated? name) :
    root.optional name = other.optional name := by
  have hread : ∀ entries : Section, entries.optional name =
      (entries.stated? name).elim (.ok []) fun value => value.asObject name := by
    intro entries
    unfold optional stated?
    cases entries.lookup name with
    | none => rfl
    | some value => cases value <;> rfl
  rw [hread root, hread other, h]

theorem required_of_stated?_eq_none (h : root.stated? name = none) :
    root.required name = .error (.missing name) := by
  have hempty : root.stated? name = stated? [] name := h
  exact required_congr hempty

theorem optional_of_stated?_eq_none (h : root.stated? name = none) :
    root.optional name = .ok [] := by
  have hempty : root.stated? name = stated? [] name := h
  exact optional_congr hempty

/-! ## Cleared sections -/

/-- A heading that the upper section clears is not stated by the two together. -/
theorem stated?_overlay_of_clears (h : (Entries.keys upper).Nodup)
    (hclears : upper.clears name = true) (lower : Section) :
    (lower.overlay upper).stated? name = none := by
  unfold stated?
  rw [lookup_overlay h, clears_iff.1 hclears]
  rfl

/-- Dropping the cleared headings from both sections changes nothing that is stated. -/
theorem stated?_uncleared_overlay (h : (Entries.keys upper).Nodup) (lower : Section)
    (name : String) :
    ((lower.uncleared upper).overlay (upper.uncleared upper)).stated? name =
      (lower.overlay upper).stated? name := by
  unfold stated?
  rw [lookup_overlay (nodup_keys_uncleared h upper), lookup_overlay h, lookup_uncleared,
    lookup_uncleared]
  cases hclears : upper.clears name with
  | true =>
    rw [clears_iff.1 hclears]
    rfl
  | false => rfl

/-- A section that the upper layer does not set to nothing, or that is not there below it, is the
same without the sections that are set to nothing. -/
theorem stated?_overlay_uncleared (h : (Entries.keys upper).Nodup)
    (hlower : upper.clears name = true → lower.stated? name = none) :
    (lower.overlay (upper.uncleared upper)).stated? name = (lower.overlay upper).stated? name := by
  cases hclears : upper.clears name with
  | true =>
    have hbelow := hlower hclears
    rw [stated?_overlay_of_clears h hclears]
    unfold stated? at hbelow ⊢
    rw [lookup_overlay (nodup_keys_uncleared h upper), lookup_uncleared, hclears]
    exact hbelow
  | false =>
    unfold stated?
    rw [lookup_overlay (nodup_keys_uncleared h upper), lookup_overlay h, lookup_uncleared, hclears]
    rfl

end Section

open Section

variable {envLevel : Option String} {root other lower upper : Section}

theorem LogSettings.read_congr (h : root.stated? "log" = other.stated? "log") :
    read envLevel root = read envLevel other := by
  rw [read_eq, read_eq, required_congr h]

theorem SearchSettings.read_congr (h : root.stated? "search" = other.stated? "search") :
    read root = read other := by
  unfold read
  rw [required_congr h]

theorem SqlSettings.read_congr (h : root.stated? "sql" = other.stated? "sql") :
    read root = read other := by
  unfold read
  rw [optional_congr h]

namespace Config

/-- A configuration is read from the sections that are not set to nothing. -/
theorem read_congr (h : ∀ name ∈ ["log", "search", "sql"], root.stated? name = other.stated? name) :
    read envLevel root = read envLevel other := by
  unfold read
  rw [LogSettings.read_congr (h "log" (by simp)), SearchSettings.read_congr (h "search" (by simp)),
    SqlSettings.read_congr (h "sql" (by simp))]

/-- The first section to be read is `log`, so its absence is reported before anything else. -/
theorem read_of_log_missing (h : root.stated? "log" = none) :
    read envLevel root = .error (.missing "log") := by
  unfold read
  rw [LogSettings.read_eq, required_of_stated?_eq_none h]
  rfl

/-- Next is `search`, once `log` has been accepted. -/
theorem read_of_search_missing {log : LogSettings} (hlog : LogSettings.read envLevel root = .ok log)
    (h : root.stated? "search" = none) : read envLevel root = .error (.missing "search") := by
  unfold read SearchSettings.read
  rw [hlog, required_of_stated?_eq_none h]
  rfl

/-- An absent `sql` section is no error: the paramstyle is the default one. -/
theorem read_of_sql_missing {config : Config} (hread : read envLevel other = .ok config)
    (hlog : root.stated? "log" = other.stated? "log")
    (hsearch : root.stated? "search" = other.stated? "search") (h : root.stated? "sql" = none) :
    read envLevel root = .ok { config with sql := ⟨"qmark"⟩ } := by
  have hsql : SqlSettings.read root = .ok ⟨"qmark"⟩ := by
    unfold SqlSettings.read
    rw [optional_of_stated?_eq_none h]
    exact congrArg (fun name => Except.ok (SqlSettings.mk name)) (lower_strip_markStyle .qmark)
  obtain ⟨⟨hlogRead, hsearchRead, -⟩, hlogCheck, hsearchCheck, -⟩ := read_eq_ok_iff.1 hread
  rw [← LogSettings.read_congr hlog] at hlogRead
  rw [← SearchSettings.read_congr hsearch] at hsearchRead
  exact read_eq_ok_iff.2 ⟨⟨hlogRead, hsearchRead, hsql⟩, hlogCheck, hsearchCheck, rfl⟩

/-- A heading with nothing under it takes its section out of both layers: it makes no difference
only where there is no section below it. Over settings that are accepted without such headings, one
for the journal or for searches is a fault, and one for statements brings back the default. -/
theorem read_overlay_headings (h : (Entries.keys upper).Nodup) (envLevel : Option String)
    (lower : Section) :
    read envLevel (lower.overlay upper) =
      read envLevel ((lower.uncleared upper).overlay (upper.uncleared upper)) ∧
    ((∀ name ∈ ["log", "search", "sql"], upper.lookup name = some .null →
        lower.lookup name = none ∨ lower.lookup name = some .null) →
      read envLevel (lower.overlay upper) =
        read envLevel (lower.overlay (upper.uncleared upper))) ∧
    ∀ config, read envLevel (lower.overlay (upper.uncleared upper)) = .ok config →
      (upper.lookup "log" = some .null →
        read envLevel (lower.overlay upper) = .error (.missing "log")) ∧
      (upper.lookup "log" ≠ some .null → upper.lookup "search" = some .null →
        read envLevel (lower.overlay upper) = .error (.missing "search")) ∧
      (upper.lookup "log" ≠ some .null → upper.lookup "search" ≠ some .null →
        upper.lookup "sql" = some .null →
        read envLevel (lower.overlay upper) = .ok { config with sql := ⟨"qmark"⟩ }) := by
  refine ⟨?_, ?_, ?_⟩
  · exact read_congr fun name _ => (stated?_uncleared_overlay h lower name).symm
  · intro hlower
    refine read_congr fun name hname => (stated?_overlay_uncleared h fun hclears => ?_).symm
    unfold stated?
    rcases hlower name hname (clears_iff.1 hclears) with hnone | hnull
    · rw [hnone]
      rfl
    · rw [hnull]
      rfl
  · intro config hconfig
    have hkept : ∀ name, upper.lookup name ≠ some .null →
        (lower.overlay upper).stated? name =
          (lower.overlay (upper.uncleared upper)).stated? name := by
      intro name hname
      exact (stated?_overlay_uncleared h fun hclears => absurd (clears_iff.1 hclears) hname).symm
    have hcleared : ∀ name, upper.lookup name = some .null →
        (lower.overlay upper).stated? name = none := by
      intro name hname
      exact stated?_overlay_of_clears h (clears_iff.2 hname) lower
    refine ⟨fun hlog => read_of_log_missing (hcleared "log" hlog), ?_, ?_⟩
    · intro hlog hsearch
      have hread := (read_eq_ok_iff.1 hconfig).1.1
      rw [← LogSettings.read_congr (hkept "log" hlog)] at hread
      exact read_of_search_missing hread (hcleared "search" hsearch)
    · intro hlog hsearch hsql
      exact read_of_sql_missing hconfig (hkept "log" hlog) (hkept "search" hsearch)
        (hcleared "sql" hsql)

/-- An empty heading for statements brings back the default where another style was set below it. -/
theorem read_overlay_headings_style :
    let lower : Section := [("log", .map [("level", .text "info")]),
      ("search", .map [("max_terms", .int 5)]), ("sql", .map [("paramstyle", .text "numeric")])]
    let upper : Section := [("depot", .null), ("sql", .null)]
    (Entries.keys upper).Nodup ∧
    read none (lower.overlay (upper.uncleared upper)) =
      .ok ⟨⟨"INFO", false, "log"⟩, ⟨5, "exhaustive"⟩, ⟨"numeric"⟩⟩ ∧
    read none (lower.overlay upper) =
      .ok ⟨⟨"INFO", false, "log"⟩, ⟨5, "exhaustive"⟩, ⟨"qmark"⟩⟩ := by
  intro lower upper
  have hdistinct : (Entries.keys upper).Nodup := by decide
  have hread : read none (lower.overlay (upper.uncleared upper)) =
      .ok ⟨⟨"INFO", false, "log"⟩, ⟨5, "exhaustive"⟩, ⟨"numeric"⟩⟩ := by decide +kernel
  obtain ⟨-, -, hcleared⟩ := read_overlay_headings hdistinct none lower
  have hlog : upper.lookup "log" ≠ some .null := nofun
  have hsearch : upper.lookup "search" ≠ some .null := nofun
  exact ⟨hdistinct, hread, (hcleared _ hread).2.2 hlog hsearch rfl⟩

/-- An empty heading for searches loses the defaults below it, which hold without the heading. -/
theorem empty_heading_loses_section :
    read none (defaults.overlay [("search", .null)]) = .error (.missing "search") ∧
    read none (defaults.overlay (uncleared [("search", .null)] [("search", .null)])) =
      .ok ⟨⟨"INFO", false, "log"⟩, ⟨10, "exhaustive"⟩, ⟨"qmark"⟩⟩ ∧
    load none (some "search:\n") = .error (.missing "search") := by
  decide +kernel

end Config

end StockQuery
