import StockQuery.Settings.Overlay

/-!
# Settings at paths

A path of keys leads through nested mappings to a setting. What two layers hold at a path follows
from what each of them holds there: the upper layer decides where it holds something and where it
cuts the path off, and everything else is as in the lower layer.
-/

namespace StockQuery

namespace Setting

/-- Whether a setting is a mapping. -/
def isMap : Setting → Bool
  | .map _ => true
  | _ => false

/-- The setting that a path of keys leads to. -/
def at? : Setting → List String → Option Setting
  | value, [] => some value
  | .map entries, key :: path => (entries.lookup key).bind fun value => value.at? path
  | _, _ :: _ => none

/-- Whether a path goes on behind a setting that is not a mapping. -/
def cutsOff : Setting → List String → Bool
  | _, [] => false
  | .map entries, key :: path => (entries.lookup key).any fun value => value.cutsOff path
  | _, _ :: _ => true

/-- Every mapping that a path leads to has each of its keys once. -/
inductive Keyed : Setting → Prop where
  /-- A mapping has each key once, and so have the mappings in it. -/
  | map {entries : Section} (distinct : (Entries.keys entries).Nodup)
    (values : ∀ entry ∈ entries, entry.2.Keyed) : Keyed (.map entries)
  /-- A setting that is no mapping has no keys. -/
  | other {value : Setting} (h : value.isMap = false) : Keyed value

/-- What a key holds in two layers. -/
def laid (lower : Option Setting) : Option Setting → Option Setting
  | none => lower
  | some value => some (Setting.over lower value)

variable {value found : Setting} {lower upper : Section} {old : Option Setting}
  {path : List String} {key : String}

theorem isMap_iff : value.isMap = true ↔ ∃ entries, value = .map entries := by
  cases value <;> simp [isMap]

theorem keyed_map_iff : Keyed (.map lower) ↔
    (Entries.keys lower).Nodup ∧ ∀ entry ∈ lower, entry.2.Keyed := by
  constructor
  · intro h
    cases h with
    | map distinct values => exact ⟨distinct, values⟩
    | other h => cases h
  · rintro ⟨distinct, values⟩
    exact .map distinct values

mutual

/-- It can be decided whether keys are distinct in a value. -/
def decideKeyed : (value : Setting) → Decidable value.Keyed
  | .map entries =>
    have := decideKeyedValues entries
    decidable_of_iff ((Entries.keys entries).Nodup ∧ ∀ entry ∈ entries, entry.2.Keyed)
      keyed_map_iff.symm
  | .null | .bool _ | .int _ | .real _ | .text _ | .list _ => .isTrue (.other rfl)

/-- It can be decided whether keys are distinct in the values of entries. -/
def decideKeyedValues : (entries : Section) → Decidable (∀ entry ∈ entries, entry.2.Keyed)
  | [] => .isTrue (List.forall_mem_nil _)
  | (key, value) :: rest =>
    have := decideKeyed value
    have := decideKeyedValues rest
    decidable_of_iff (value.Keyed ∧ ∀ entry ∈ rest, entry.2.Keyed)
      (List.forall_mem_cons (p := fun entry => entry.2.Keyed) (a := (key, value))).symm

end

instance (value : Setting) : Decidable value.Keyed := decideKeyed value

theorem Keyed.distinct (h : Keyed (.map lower)) : (Entries.keys lower).Nodup :=
  (keyed_map_iff.1 h).1

theorem Keyed.of_lookup (h : Keyed (.map lower)) (hvalue : lower.lookup key = some value) :
    value.Keyed :=
  (keyed_map_iff.1 h).2 (key, value) (Entries.mem_of_lookup hvalue)

/-! ## Paths -/

theorem Keyed.at? (h : value.Keyed) (hfound : value.at? path = some found) : found.Keyed := by
  induction path generalizing value with
  | nil =>
    obtain rfl := Option.some.inj hfound
    exact h
  | cons key path ih =>
    cases h with
    | map distinct values =>
      obtain ⟨next, hnext, hrest⟩ := Option.bind_eq_some_iff.1 hfound
      exact ih (values (key, next) (Entries.mem_of_lookup hnext)) hrest
    | other h =>
      cases value with
      | map entries => cases h
      | null | bool | int | real | text | list => cases hfound

theorem at?_cons_of_not_isMap (h : value.isMap = false) : value.at? (key :: path) = none := by
  cases value with
  | map entries => cases h
  | null | bool | int | real | text | list => rfl

theorem cutsOff_cons_of_not_isMap (h : value.isMap = false) :
    value.cutsOff (key :: path) = true := by
  cases value with
  | map entries => cases h
  | null | bool | int | real | text | list => rfl

/-- A path that leads to a setting is not cut off. -/
theorem cutsOff_of_at? (h : value.at? path = some found) : value.cutsOff path = false := by
  induction path generalizing value with
  | nil => rw [cutsOff]
  | cons key path ih =>
    cases hmap : value.isMap with
    | false =>
      rw [at?_cons_of_not_isMap hmap] at h
      cases h
    | true =>
      obtain ⟨entries, rfl⟩ := isMap_iff.1 hmap
      obtain ⟨next, hnext, hfound⟩ := Option.bind_eq_some_iff.1 h
      rw [cutsOff, hnext, Option.any_some]
      exact ih hfound

/-- A path is cut off where a shorter one leads to a setting that is not a mapping. -/
theorem cutsOff_iff : value.cutsOff path = true ↔
    ∃ front found, front <+: path ∧ front ≠ path ∧ value.at? front = some found ∧
      found.isMap = false := by
  induction path generalizing value with
  | nil =>
    rw [cutsOff]
    refine iff_of_false Bool.false_ne_true ?_
    rintro ⟨front, found, hfront, hne, -⟩
    exact hne (List.prefix_nil.1 hfront)
  | cons key path ih =>
    cases hmap : value.isMap with
    | false =>
      rw [cutsOff_cons_of_not_isMap hmap]
      exact iff_of_true rfl ⟨[], value, List.nil_prefix, by simp, rfl, hmap⟩
    | true =>
      obtain ⟨entries, rfl⟩ := isMap_iff.1 hmap
      rw [cutsOff, Option.any_eq_true]
      constructor
      · rintro ⟨next, hnext, hcut⟩
        obtain ⟨front, found, hfront, hne, hfound, hother⟩ := ih.1 hcut
        refine ⟨key :: front, found, List.cons_prefix_cons.2 ⟨rfl, hfront⟩, by simpa, ?_, hother⟩
        rw [at?, hnext]
        exact hfound
      · rintro ⟨front, found, hfront, hne, hfound, hother⟩
        -- The mapping itself cuts nothing off, so that the shorter path starts with the key.
        cases front with
        | nil =>
          obtain rfl := Option.some.inj hfound
          cases hother
        | cons first front =>
          obtain ⟨rfl, hrest⟩ := List.cons_prefix_cons.1 hfront
          obtain ⟨next, hnext, hnextFound⟩ := Option.bind_eq_some_iff.1 hfound
          have hshorter : front ≠ path := by simpa using hne
          exact ⟨next, hnext, ih.2 ⟨front, found, hrest, hshorter, hnextFound, hother⟩⟩

/-! ## One setting over another -/

theorem over_maps : Setting.over (some (.map lower)) (.map upper) = .map (lower.overlay upper) := by
  rw [Setting.over]

theorem over_of_not_isMap (h : value.isMap = false) : Setting.over old value = value := by
  cases value with
  | map entries => cases h
  | null | bool | int | real | text | list => rfl

theorem over_none : Setting.over none value = value := by
  cases value <;> rfl

theorem over_some_of_not_isMap (h : value.isMap = false) :
    Setting.over (some value) found = found := by
  cases found with
  | map entries =>
    cases value with
    | map entries => cases h
    | null | bool | int | real | text | list => rfl
  | null | bool | int | real | text | list => rfl

theorem isMap_over : (Setting.over old value).isMap = value.isMap := by
  cases hmap : value.isMap with
  | false => rw [over_of_not_isMap hmap, hmap]
  | true =>
    obtain ⟨upper, rfl⟩ := isMap_iff.1 hmap
    unfold Setting.over
    split <;> rfl

theorem laid_none : laid none old = old := by
  cases old with
  | none => rfl
  | some value => exact congrArg some over_none

end Setting

open Setting

/-! ## One section over another -/

namespace Section

/-- The setting that a path of keys leads to. -/
abbrev at? (entries : Section) (path : List String) : Option Setting :=
  (Setting.map entries).at? path

/-- Every mapping that a path leads to has each of its keys once, and so has the section. -/
abbrev Keyed (entries : Section) : Prop := (Setting.map entries).Keyed

variable {lower upper : Section}

theorem lookup_overlay (h : (Entries.keys upper).Nodup) (lower : Section) (key : String) :
    (lower.overlay upper).lookup key = laid (lower.lookup key) (upper.lookup key) := by
  induction upper generalizing lower with
  | nil =>
    rw [overlay]
    rfl
  | cons entry rest ih =>
    obtain ⟨k, value⟩ := entry
    obtain ⟨hnew, hrest⟩ := List.nodup_cons.1 h
    rw [overlay, ih hrest]
    by_cases hkey : key = k
    · subst hkey
      have hnone : rest.lookup key = none := Entries.lookup_eq_none_iff.2 hnew
      rw [hnone, List.lookup_cons_self, Entries.lookup_amend_self]
      rfl
    · rw [Entries.lookup_amend_of_ne hkey, List.lookup_cons, beq_false_of_ne hkey]

/-- The keys of the lower layer come first, and then the new ones of the upper layer. -/
theorem keys_overlay (h : (Entries.keys upper).Nodup) (lower : Section) :
    Entries.keys (lower.overlay upper) =
      Entries.keys lower ++ (Entries.keys upper).filter fun key => key ∉ Entries.keys lower := by
  induction upper generalizing lower with
  | nil =>
    rw [overlay]
    exact (List.append_nil _).symm
  | cons entry rest ih =>
    obtain ⟨k, value⟩ := entry
    obtain ⟨hnew, hrest⟩ := List.nodup_cons.1 h
    have hcons : Entries.keys ((k, value) :: rest) = k :: Entries.keys rest := rfl
    rw [overlay, ih hrest, Entries.keys_amend, hcons, List.filter_cons]
    by_cases hk : k ∈ Entries.keys lower
    · simp [hk]
    · have hfilter : (Entries.keys rest).filter (fun key => key ∉ Entries.keys lower ++ [k]) =
          (Entries.keys rest).filter fun key => key ∉ Entries.keys lower := by
        refine List.filter_congr fun key hkey => ?_
        have hne : key ≠ k := fun heq => hnew (heq ▸ hkey)
        simp [hne]
      simp only [hk, if_false, hfilter]
      simp

theorem nodup_keys_overlay (hlower : (Entries.keys lower).Nodup)
    (hupper : (Entries.keys upper).Nodup) : (Entries.keys (lower.overlay upper)).Nodup := by
  rw [keys_overlay hupper, List.nodup_append]
  refine ⟨hlower, hupper.filter _, ?_⟩
  rintro key hkey other hother rfl
  have hnew := (List.mem_filter.1 hother).2
  simp [hkey] at hnew

end Section

/-! ## Layers at a path -/

/-- Laying one setting over another keeps keys distinct. -/
theorem Setting.Keyed.over {value : Setting} (h : value.Keyed) {old : Option Setting}
    (hold : ∀ lower, old = some lower → lower.Keyed) : (Setting.over old value).Keyed := by
  induction h generalizing old with
  | other h =>
    rw [over_of_not_isMap h]
    exact .other h
  | @map upper distinct values ih =>
    have hupper : Section.Keyed upper := .map distinct values
    cases old with
    | none => rwa [over_none]
    | some lower =>
      cases hmap : lower.isMap with
      | false => rwa [over_some_of_not_isMap hmap]
      | true =>
        obtain ⟨entries, rfl⟩ := isMap_iff.1 hmap
        have hlower : Section.Keyed entries := hold _ rfl
        have hdistinct := Section.nodup_keys_overlay hlower.distinct distinct
        rw [over_maps]
        -- Each value is one of the lower layer, or one of the upper layer over what was there.
        refine .map hdistinct fun ⟨key, value⟩ hentry => ?_
        have hlookup := Section.lookup_overlay distinct entries key
        rw [Entries.lookup_of_mem hdistinct hentry] at hlookup
        cases hkey : upper.lookup key with
        | none =>
          rw [hkey] at hlookup
          exact hlower.of_lookup hlookup.symm
        | some new =>
          rw [hkey] at hlookup
          obtain rfl := Option.some.inj hlookup
          exact ih (key, new) (Entries.mem_of_lookup hkey) fun lower h => hlower.of_lookup h

theorem Section.Keyed.overlay {lower upper : Section} (hlower : lower.Keyed)
    (hupper : upper.Keyed) : (lower.overlay upper).Keyed := by
  unfold Section.Keyed
  rw [← over_maps]
  refine Setting.Keyed.over hupper ?_
  rintro _ ⟨rfl⟩
  exact hlower

/-- At a path, a setting that is laid over another one has what it holds there over what the other
one holds there, unless it cuts the path off. -/
theorem Setting.at?_over {value : Setting} (h : value.Keyed) (old : Option Setting)
    (path : List String) :
    (Setting.over old value).at? path =
      laid (if value.cutsOff path then none else old.bind fun lower => lower.at? path)
        (value.at? path) := by
  induction path generalizing value old with
  | nil =>
    have hold : (old.bind fun lower => lower.at? []) = old := Option.bind_fun_some old
    rw [at?, cutsOff, if_neg Bool.false_ne_true, hold, at?]
    rfl
  | cons key path ih =>
    cases hmap : value.isMap with
    | false =>
      rw [over_of_not_isMap hmap, cutsOff_cons_of_not_isMap hmap, if_pos rfl, laid_none]
    | true =>
      obtain ⟨upper, rfl⟩ := isMap_iff.1 hmap
      -- A mapping is looked into only if there is a mapping below it; else it is left as it is.
      cases old with
      | none => rw [over_none, Option.bind_none, ite_self, laid_none]
      | some lower =>
        cases hlower : lower.isMap with
        | false =>
          rw [over_some_of_not_isMap hlower, Option.bind_some, at?_cons_of_not_isMap hlower,
            ite_self, laid_none]
        | true =>
          obtain ⟨entries, rfl⟩ := isMap_iff.1 hlower
          rw [over_maps, at?, Section.lookup_overlay h.distinct]
          cases hkey : upper.lookup key with
          | none => simp [laid, at?, cutsOff, hkey]
          | some next =>
            have hnext := ih (h.of_lookup hkey) (entries.lookup key)
            simpa [laid, at?, cutsOff, hkey] using hnext

namespace Section

variable {lower upper : Section} {path : List String}

theorem at?_overlay (h : upper.Keyed) (lower : Section) (path : List String) :
    (lower.overlay upper).at? path =
      laid (if (Setting.map upper).cutsOff path then none else lower.at? path)
        (upper.at? path) := by
  have hover := Setting.at?_over h (some (.map lower)) path
  rwa [over_maps] at hover

/-- Where the upper layer holds a setting, the layers together hold it over the lower one's. -/
theorem at?_overlay_of_at? (h : upper.Keyed) {value : Setting}
    (hvalue : upper.at? path = some value) :
    (lower.overlay upper).at? path = some (Setting.over (lower.at? path) value) := by
  rw [at?_overlay h, hvalue, cutsOff_of_at? hvalue]
  rfl

/-- Where the upper layer holds nothing and does not cut the path off, the layers together hold what
the lower one does. -/
theorem at?_overlay_of_at?_eq_none (h : upper.Keyed) (hnone : upper.at? path = none)
    (hcut : (Setting.map upper).cutsOff path = false) :
    (lower.overlay upper).at? path = lower.at? path := by
  rw [at?_overlay h, hnone, hcut]
  rfl

/-- Two layers hold at a path what the upper one holds there, which is laid over the lower one's
setting if it is a mapping. They hold nothing behind a setting of the upper layer that is not a
mapping. Elsewhere they hold what the lower layer holds. Where both layers hold a mapping, the keys
of the lower one come first, and then those that are new. -/
theorem overlay_by_path (h : upper.Keyed) (lower : Section) :
    (∀ path ≠ [],
      (∀ value, upper.at? path = some value →
        ∃ result, (lower.overlay upper).at? path = some result ∧
          result.isMap = value.isMap ∧ (value.isMap = false → result = value)) ∧
      (upper.at? path = none →
        ((∃ front value, front <+: path ∧ front ≠ path ∧ upper.at? front = some value ∧
            value.isMap = false) → (lower.overlay upper).at? path = none) ∧
        ((¬ ∃ front value, front <+: path ∧ front ≠ path ∧ upper.at? front = some value ∧
            value.isMap = false) → (lower.overlay upper).at? path = lower.at? path))) ∧
    ∀ path below above, lower.at? path = some (.map below) → upper.at? path = some (.map above) →
      ∃ entries, (lower.overlay upper).at? path = some (.map entries) ∧
        Entries.keys entries = Entries.keys below ++
          (Entries.keys above).filter fun key => key ∉ Entries.keys below := by
  constructor
  · intro path _
    constructor
    · intro value hvalue
      exact ⟨_, at?_overlay_of_at? h hvalue, isMap_over, over_of_not_isMap⟩
    · intro hnone
      rw [← cutsOff_iff, Bool.not_eq_true]
      constructor
      · intro hcut
        rw [at?_overlay h, hnone, if_pos hcut]
        rfl
      · exact at?_overlay_of_at?_eq_none h hnone
  · intro path below above hbelow habove
    have hdistinct : (Entries.keys above).Nodup := (h.at? habove).distinct
    refine ⟨overlay below above, ?_, keys_overlay hdistinct below⟩
    rw [at?_overlay_of_at? h habove, hbelow, over_maps]

/-- A section that is set to nothing hides what is below it, a mapping over a number replaces it,
and a mapping over a mapping keeps what it does not name. -/
theorem overlay_by_path_nothing :
    let lower : Section := [("sql", .map [("paramstyle", .text "numeric")]), ("limit", .int 7),
      ("log", .map [("level", .text "INFO"), ("dir", .text "log")])]
    let upper : Section := [("depot", .null), ("limit", .map []), ("sql", .null),
      ("log", .map [("to_file", .bool true), ("dir", .map [])])]
    upper.Keyed ∧
    (lower.overlay upper).at? ["sql", "paramstyle"] = none ∧
    (lower.overlay upper).at? ["log", "level"] = some (.text "INFO") ∧
    (∃ result, (lower.overlay upper).at? ["limit"] = some result ∧ result.isMap = true) ∧
    ∃ entries, (lower.overlay upper).at? ["log"] = some (.map entries) ∧
      Entries.keys entries = ["level", "dir", "to_file"] := by
  intro lower upper
  have h : upper.Keyed := by decide
  obtain ⟨hpaths, hmaps⟩ := overlay_by_path h lower
  have hhidden := (hpaths ["sql", "paramstyle"] (by simp)).2 rfl
  have hkept := (hpaths ["log", "level"] (by simp)).2 rfl
  refine ⟨h, hhidden.1 ⟨["sql"], .null, by simp, by simp, rfl, rfl⟩, ?_, ?_, ?_⟩
  · refine hkept.2 ?_
    rw [← cutsOff_iff]
    decide
  · obtain ⟨result, hresult, hmap, -⟩ := (hpaths ["limit"] (by simp)).1 _ rfl
    exact ⟨result, hresult, hmap⟩
  · exact hmaps ["log"] _ _ rfl rfl

end Section

end StockQuery
