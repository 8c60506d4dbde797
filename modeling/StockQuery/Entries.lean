/-!
# Entries

A keyed collection whose order is visible is a list of entries, each key at most once: filters in
the order in which a search first names them, the keys of a settings file, the columns of a row.
Setting a key that is present changes its value in place; a new key goes to the end. Reading is
`List.lookup`.
-/

namespace StockQuery.Entries

variable {α β : Type}

/-- Gives `key` the value `f old`, where `old` is its present value: in place if the key is
present, at the end otherwise. -/
def amend (key : String) (f : Option α → α) : List (String × α) → List (String × α)
  | [] => [(key, f none)]
  | (k, v) :: rest => if k = key then (k, f (some v)) :: rest else (k, v) :: amend key f rest

/-- Gives `key` the value `value`. -/
def put (key : String) (value : α) (entries : List (String × α)) : List (String × α) :=
  amend key (fun _ => value) entries

/-- Sets one key after the other: of a repeated key the first place and the last value stay. -/
def ofPairs (pairs : List (String × α)) : List (String × α) :=
  pairs.foldl (fun entries pair => put pair.1 pair.2 entries) []

/-- The keys in order. -/
def keys (entries : List (String × α)) : List String := entries.map Prod.fst

/-- A changed key stays where it is, and a new one goes to the end. -/
theorem keys_amend (key : String) (f : Option α → α) (entries : List (String × α)) :
    keys (amend key f entries) =
      if key ∈ keys entries then keys entries else keys entries ++ [key] := by
  induction entries with
  | nil => simp [amend, keys]
  | cons entry rest ih =>
    obtain ⟨k, v⟩ := entry
    by_cases hk : k = key
    · simp [amend, keys, hk]
    · have hk' : key ≠ k := fun h => hk h.symm
      simp only [keys] at ih
      by_cases hm : key ∈ List.map Prod.fst rest
      · simp [amend, keys, hk, hk', ih, hm]
      · simp [amend, keys, hk, hk', ih, hm]

/-- The changed key reads as its new value. -/
theorem lookup_amend_self (key : String) (f : Option α → α) (entries : List (String × α)) :
    (amend key f entries).lookup key = some (f (entries.lookup key)) := by
  induction entries with
  | nil => simp [amend]
  | cons entry rest ih =>
    obtain ⟨k, v⟩ := entry
    by_cases hk : k = key
    · simp [amend, hk]
    · have hk' : (key == k) = false := by simpa using fun h => hk h.symm
      simp [amend, hk, List.lookup_cons, hk', ih]

/-- Every other key reads as before. -/
theorem lookup_amend_of_ne {key other : String} (h : other ≠ key) (f : Option α → α)
    (entries : List (String × α)) : (amend key f entries).lookup other = entries.lookup other := by
  induction entries with
  | nil => simp [amend, List.lookup_cons, beq_false_of_ne h]
  | cons entry rest ih =>
    obtain ⟨k, v⟩ := entry
    by_cases hk : k = key
    · subst hk
      simp [amend, List.lookup_cons, beq_false_of_ne h]
    · simp only [amend, hk, if_false, List.lookup_cons, ih]

/-- What holds of every entry still does if it holds of the changed one. -/
theorem forall_mem_amend {P : String × α → Prop} {key : String} {f : Option α → α}
    {entries : List (String × α)} (h : ∀ entry ∈ entries, P entry) (hnew : P (key, f none))
    (hold : ∀ value, P (key, value) → P (key, f (some value))) :
    ∀ entry ∈ amend key f entries, P entry := by
  induction entries with
  | nil =>
    intro entry hentry
    rw [amend, List.mem_singleton] at hentry
    exact hentry ▸ hnew
  | cons first rest ih =>
    obtain ⟨k, v⟩ := first
    obtain ⟨hfirst, hrest⟩ := List.forall_mem_cons.1 h
    by_cases hk : k = key
    · subst hk
      rw [amend, if_pos rfl, List.forall_mem_cons]
      exact ⟨hold v hfirst, hrest⟩
    · rw [amend, if_neg hk, List.forall_mem_cons]
      exact ⟨hfirst, ih hrest⟩

/-- Keys stay distinct. -/
theorem nodup_keys_amend (key : String) (f : Option α → α) {entries : List (String × α)}
    (h : (keys entries).Nodup) : (keys (amend key f entries)).Nodup := by
  rw [keys_amend]
  split
  · exact h
  · next hkey =>
    rw [List.nodup_append]
    refine ⟨h, by simp, ?_⟩
    intro a ha b hb
    rw [List.mem_singleton] at hb
    intro hab
    exact hkey (hb ▸ hab ▸ ha)

theorem lookup_eq_none_iff {key : String} {entries : List (String × α)} :
    entries.lookup key = none ↔ key ∉ keys entries := by
  rw [List.lookup_eq_none_iff, keys, List.mem_map]
  constructor
  · rintro h ⟨entry, hentry, rfl⟩
    simpa using h entry hentry
  · intro h entry hentry
    exact bne_iff_ne.2 fun heq => h ⟨entry, hentry, heq.symm⟩

theorem mem_of_lookup {key : String} {value : α} {entries : List (String × α)}
    (h : entries.lookup key = some value) : (key, value) ∈ entries := by
  obtain ⟨before, after, rfl, -⟩ := List.lookup_eq_some_iff.mp h
  exact List.mem_append_right _ List.mem_cons_self

theorem lookup_of_mem {key : String} {value : α} {entries : List (String × α)}
    (h : (keys entries).Nodup) (hmem : (key, value) ∈ entries) :
    entries.lookup key = some value := by
  induction entries with
  | nil => cases hmem
  | cons entry rest ih =>
    obtain ⟨hnew, hrest⟩ := List.nodup_cons.1 h
    rcases List.mem_cons.1 hmem with rfl | hmem
    · exact List.lookup_cons_self
    · have hne : key ≠ entry.1 := fun heq => hnew (heq ▸ List.mem_map_of_mem hmem)
      rw [List.lookup_cons, beq_false_of_ne hne]
      exact ih hrest hmem

/-- Entries with distinct keys are told by their keys and what these read as. -/
theorem eq_map_lookup (missing : α) {entries : List (String × α)} (h : (keys entries).Nodup) :
    entries = (keys entries).map fun key => (key, (entries.lookup key).getD missing) := by
  induction entries with
  | nil => rfl
  | cons entry rest ih =>
    obtain ⟨k, v⟩ := entry
    obtain ⟨hnew, hrest⟩ := List.nodup_cons.1 h
    have htail : rest =
        (keys rest).map fun key => (key, (((k, v) :: rest).lookup key).getD missing) := by
      refine (ih hrest).trans (List.map_congr_left fun key hkey => ?_)
      have hne : (key == k) = false := beq_false_of_ne fun heq => hnew (heq ▸ hkey)
      rw [List.lookup_cons, hne]
    show (k, v) :: rest = (k, (((k, v) :: rest).lookup k).getD missing) :: _
    rw [List.lookup_cons_self, Option.getD_some]
    exact congrArg _ htail

/-- Entries with the same keys in the same order that read alike are the same. -/
theorem ext_of_lookup {entries others : List (String × α)} (h : (keys entries).Nodup)
    (hkeys : keys entries = keys others)
    (hlookup : ∀ key, entries.lookup key = others.lookup key) : entries = others := by
  cases entries with
  | nil => exact (List.map_eq_nil_iff.1 hkeys.symm).symm
  | cons entry rest =>
    have hothers : (keys others).Nodup := hkeys ▸ h
    calc entry :: rest
        = (keys (entry :: rest)).map fun key =>
            (key, ((entry :: rest).lookup key).getD entry.2) := eq_map_lookup entry.2 h
      _ = (keys others).map fun key => (key, (others.lookup key).getD entry.2) := by
          simp only [hkeys, hlookup]
      _ = others := (eq_map_lookup entry.2 hothers).symm

theorem amend_of_notMem {key : String} (f : Option α → α) {entries : List (String × α)}
    (h : key ∉ keys entries) : amend key f entries = entries ++ [(key, f none)] := by
  induction entries with
  | nil => rfl
  | cons entry rest ih =>
    obtain ⟨k, v⟩ := entry
    rw [keys, List.map_cons, List.mem_cons, not_or] at h
    rw [amend, if_neg (Ne.symm h.1), ih h.2, List.cons_append]

theorem eraseDups_append_singleton (names : List String) (name : String) :
    (names ++ [name]).eraseDups =
      if name ∈ names then names.eraseDups else names.eraseDups ++ [name] := by
  rw [List.eraseDups_append, List.cons_removeAll, List.nil_removeAll]
  by_cases hname : name ∈ names
  · simp [hname]
  · rw [if_pos (by simpa using hname), if_neg hname]
    rfl

/-- Changed one after the other, keys stand in the order in which they first appear. -/
theorem keys_foldl_amend (key : β → String) (f : β → Option α → α) (items : List β) :
    keys (items.foldl (fun entries item => amend (key item) (f item) entries) []) =
      (items.map key).eraseDups := by
  have step : ∀ (before : List String) (entries : List (String × α)),
      keys entries = before.eraseDups →
      keys (items.foldl (fun entries item => amend (key item) (f item) entries) entries) =
        (before ++ items.map key).eraseDups := by
    induction items with
    | nil =>
      intro before entries h
      rw [List.map_nil, List.append_nil]
      exact h
    | cons item rest ih =>
      intro before entries h
      rw [List.map_cons, List.append_cons]
      refine ih (before ++ [key item]) _ ?_
      rw [keys_amend, h, eraseDups_append_singleton]
      simp only [List.mem_eraseDups]
  exact step [] [] rfl

theorem keys_ofPairs (pairs : List (String × α)) :
    keys (ofPairs pairs) = (pairs.map Prod.fst).eraseDups :=
  keys_foldl_amend Prod.fst (fun pair _ => pair.2) pairs

theorem nodup_keys_foldl_amend (key : β → String) (f : β → Option α → α) (items : List β)
    {entries : List (String × α)} (h : (keys entries).Nodup) :
    (keys (items.foldl (fun entries item => amend (key item) (f item) entries) entries)).Nodup := by
  induction items generalizing entries with
  | nil => exact h
  | cons item rest ih => exact ih (nodup_keys_amend (key item) (f item) h)

/-- However often a key is set, it is there once. -/
theorem nodup_keys_ofPairs (pairs : List (String × α)) : (keys (ofPairs pairs)).Nodup :=
  nodup_keys_foldl_amend Prod.fst (fun pair _ => pair.2) pairs List.nodup_nil

/-- A key reads as the value that it was given last. -/
theorem lookup_ofPairs (pairs : List (String × α)) (key : String) :
    (ofPairs pairs).lookup key = pairs.reverse.lookup key := by
  have step : ∀ entries : List (String × α),
      (pairs.foldl (fun entries pair => put pair.1 pair.2 entries) entries).lookup key =
        (pairs.reverse.lookup key).or (entries.lookup key) := by
    induction pairs with
    | nil =>
      intro entries
      rfl
    | cons pair rest ih =>
      intro entries
      obtain ⟨k, v⟩ := pair
      rw [List.foldl_cons, ih, List.reverse_cons, List.lookup_append, Option.or_assoc]
      by_cases hkey : key = k
      · subst hkey
        rw [put, lookup_amend_self, List.lookup_cons_self]
        rfl
      · rw [put, lookup_amend_of_ne hkey, List.lookup_cons, beq_false_of_ne hkey]
        rfl
  exact (step []).trans Option.or_none

/-- Distinct keys are set as they come. -/
theorem ofPairs_of_nodup {pairs : List (String × α)} (h : (pairs.map Prod.fst).Nodup) :
    ofPairs pairs = pairs := by
  have step : ∀ entries : List (String × α), (keys entries ++ pairs.map Prod.fst).Nodup →
      pairs.foldl (fun entries pair => put pair.1 pair.2 entries) entries = entries ++ pairs := by
    clear h
    induction pairs with
    | nil =>
      intro entries _
      exact (List.append_nil entries).symm
    | cons pair rest ih =>
      intro entries h
      have hnew : pair.1 ∉ keys entries := by
        intro hold
        exact (List.nodup_append.1 h).2.2 _ hold _ (by simp) rfl
      have hput : put pair.1 pair.2 entries = entries ++ [pair] := amend_of_notMem _ hnew
      rw [List.foldl_cons, hput, ih, List.append_assoc, List.singleton_append]
      simpa [keys] using h
  exact step [] h

/-- Every entry is one of those that were set. -/
theorem mem_of_mem_ofPairs {pairs : List (String × α)} {entry : String × α}
    (h : entry ∈ ofPairs pairs) : entry ∈ pairs := by
  have step : ∀ rest entries : List (String × α), (∀ entry ∈ entries, entry ∈ pairs) →
      (∀ pair ∈ rest, pair ∈ pairs) →
      ∀ entry ∈ rest.foldl (fun entries pair => put pair.1 pair.2 entries) entries,
        entry ∈ pairs := by
    intro rest
    induction rest with
    | nil =>
      intro entries hentries _
      exact hentries
    | cons pair rest ih =>
      intro entries hentries hrest
      obtain ⟨hpair, hrest⟩ := List.forall_mem_cons.1 hrest
      exact ih _ (forall_mem_amend hentries hpair fun _ _ => hpair) hrest
  exact step pairs [] (List.forall_mem_nil _) (fun _ hpair => hpair) entry h

end StockQuery.Entries
