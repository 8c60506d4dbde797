import StockQuery.Proofs.Paths
import StockQuery.Settings.Config

/-!
# The algebra of layers

Settings in layers can be put together in any order of steps, as long as no layer in the middle puts
an end to a mapping that the layers around it both have. A layer that repeats what is there changes
nothing, so a settings file over itself reads as the file alone.
-/

namespace StockQuery

/-! ## Settings files -/

/-- No plain text of a file is read as a mapping. -/
theorem Scalar.isMap_of_read {text : String} {value : Setting} (h : read text = .ok value) :
    value.isMap = false := by
  unfold read at h
  split at h
  · cases h
  split at h
  · obtain rfl := Except.ok.inj h
    rfl
  split at h
  · obtain rfl := Except.ok.inj h
    rfl
  split at h
  · obtain rfl := Except.ok.inj h
    rfl
  split at h
  · next number _ =>
    cases number with
    | error fault => cases h
    | ok n =>
      obtain rfl := Except.ok.inj h
      rfl
  · obtain rfl := Except.ok.inj h
    split <;> rfl

theorem exists_of_map_eq_ok {ε β γ : Type} {x : Except ε β} {f : β → γ} {c : γ}
    (h : x.map f = .ok c) : ∃ b, x = .ok b ∧ f b = c := by
  cases x with
  | error e => cases h
  | ok b => exact ⟨b, rfl, Except.ok.inj h⟩

theorem eq_of_mapError_eq_ok {ε δ β : Type} {x : Except ε β} {f : ε → δ} {b : β}
    (h : x.mapError f = .ok b) : x = .ok b := by
  cases x with
  | error e => cases h
  | ok a => exact congrArg _ (Except.ok.inj h)

namespace Notation.Node

mutual

/-- Every setting that is read from a node has distinct keys throughout, by recursion on the node.
-/
theorem keyed_of_value {depth : Nat} {value : Setting} : ∀ {node : Node},
    node.value depth = .ok value → value.Keyed
  | .plain text, h => by
    unfold Node.value at h
    exact .other (Scalar.isMap_of_read (eq_of_mapError_eq_ok h))
  | .quoted text, h => by
    obtain rfl := Except.ok.inj h
    exact .other rfl
  | .list items, h => by
    unfold Node.value at h
    obtain ⟨settings, -, rfl⟩ := exists_of_map_eq_ok h
    exact .other rfl
  | .map entries, h => by
    unfold Node.value at h
    obtain ⟨pairs, hpairs, rfl⟩ := exists_of_map_eq_ok h
    exact .map (Entries.nodup_keys_ofPairs pairs) fun entry hentry =>
      keyed_of_fields hpairs entry (Entries.mem_of_mem_ofPairs hentry)
  | .orphan, h => by cases h

/-- The same for the values of the fields of a mapping. -/
theorem keyed_of_fields {depth : Nat} {pairs : List (String × Setting)} :
    ∀ {entries : List (Node × Node)}, fields depth entries = .ok pairs →
      ∀ pair ∈ pairs, pair.2.Keyed
  | [], h => by
    obtain rfl := Except.ok.inj h
    exact List.forall_mem_nil _
  | (key, node) :: entries, h => by
    unfold fields at h
    obtain ⟨⟨⟨name, value⟩, rest⟩, hboth, rfl⟩ := exists_of_map_eq_ok h
    obtain ⟨hfield, hrest⟩ := Flaw.both_eq_ok_iff.1 hboth
    obtain ⟨-, hvalue⟩ := Flaw.both_eq_ok_iff.1 hfield
    exact List.forall_mem_cons.2 ⟨keyed_of_value hvalue, keyed_of_fields hrest⟩

end

end Notation.Node

/-- However a settings file is written, the keys of its settings are distinct. -/
theorem Section.keyed_of_ofText {text : String} {entries : Section}
    (h : ofText text = .ok entries) : entries.Keyed := by
  unfold ofText at h
  cases hread : Notation.read text with
  | error fault =>
    rw [hread] at h
    cases h
  | ok node =>
    rw [hread] at h
    change (node.setting.bind fun value => _) = _ at h
    cases hsetting : node.setting with
    | error fault =>
      rw [hsetting] at h
      cases h
    | ok value =>
      rw [hsetting] at h
      change (if Notation.saysNothing value then _ else _) = _ at h
      have hvalue : value.Keyed := Notation.Node.keyed_of_value (eq_of_mapError_eq_ok hsetting)
      split at h
      · obtain rfl := Except.ok.inj h
        exact .map List.nodup_nil (List.forall_mem_nil _)
      · cases value with
        | map found =>
          obtain rfl := Except.ok.inj h
          exact hvalue
        | null | bool | int | real | text | list => cases h

/-! ## A layer over itself -/

variable {a b c : Section}

theorem Section.overlay_nil (a : Section) : a.overlay [] = a := by
  rw [overlay]

theorem Section.nil_overlay (h : a.Keyed) : overlay [] a = a := by
  refine Entries.ext_of_lookup (nodup_keys_overlay List.nodup_nil h.distinct) ?_ fun key => ?_
  · rw [keys_overlay h.distinct]
    simp [Entries.keys]
  · rw [lookup_overlay h.distinct]
    exact Setting.laid_none

/-- A setting over itself is itself: a mapping by its fields, any other value because it replaces.
-/
theorem Setting.over_self {value : Setting} (h : value.Keyed) :
    Setting.over (some value) value = value := by
  induction h with
  | other h => exact over_of_not_isMap h
  | @map entries distinct values ih =>
    rw [over_maps]
    refine congrArg Setting.map (Entries.ext_of_lookup ?_ ?_ fun key => ?_)
    · exact Section.nodup_keys_overlay distinct distinct
    · have hnone : (Entries.keys entries).filter (fun key => key ∉ Entries.keys entries) = [] :=
        List.filter_eq_nil_iff.2 fun key hkey => by simpa using hkey
      rw [Section.keys_overlay distinct, hnone, List.append_nil]
    · rw [Section.lookup_overlay distinct]
      cases hkey : entries.lookup key with
      | none => rfl
      | some value => exact congrArg some (ih (key, value) (Entries.mem_of_lookup hkey))

theorem Section.overlay_self (h : a.Keyed) : a.overlay a = a := by
  have hover := Setting.over_self h
  rw [Setting.over_maps] at hover
  exact Setting.map.inj hover

/-! ## Three layers -/

/-- On some path the outer layers both hold a mapping and the middle one ends it. -/
def Setting.Interrupts (bottom middle top : Setting) : Prop :=
  ∃ path below between above, bottom.at? path = some (.map below) ∧
    top.at? path = some (.map above) ∧ middle.at? path = some between ∧ between.isMap = false

/-- An interruption below a key all three sections have is one of the sections. -/
theorem Setting.Interrupts.of_lookup {key : String} {x y z : Setting} (h : x.Interrupts y z)
    (hx : a.lookup key = some x) (hy : b.lookup key = some y) (hz : c.lookup key = some z) :
    Interrupts (.map a) (.map b) (.map c) := by
  obtain ⟨path, below, between, above, hbelow, habove, hbetween, hends⟩ := h
  refine ⟨key :: path, below, between, above, ?_, ?_, ?_, hends⟩
  · rw [at?, hx]
    exact hbelow
  · rw [at?, hz]
    exact habove
  · rw [at?, hy]
    exact hbetween

/-- The order of the keys does not depend on how three sections are grouped. -/
theorem Section.keys_overlay_overlay (hb : (Entries.keys b).Nodup) (hc : (Entries.keys c).Nodup)
    (a : Section) : Entries.keys ((a.overlay b).overlay c) =
      Entries.keys (a.overlay (b.overlay c)) := by
  rw [keys_overlay hc, keys_overlay hb, keys_overlay (nodup_keys_overlay hb hc), keys_overlay hc]
  rw [List.filter_append, List.filter_filter, List.append_assoc]
  congr 2
  refine List.filter_congr fun key _ => ?_
  by_cases hkey : key ∈ Entries.keys a <;> simp [hkey]

/-- Three settings under one key come to the same in both orders if they do so where all three are
there. -/
theorem Setting.laid_laid {x y z : Option Setting}
    (h : ∀ bottom middle top, x = some bottom → y = some middle → z = some top →
      Setting.over (some (Setting.over (some bottom) middle)) top =
        Setting.over (some bottom) (Setting.over (some middle) top)) :
    laid (laid x y) z = laid x (laid y z) := by
  cases z with
  | none => rfl
  | some top =>
    cases y with
    | none =>
      rw [laid_none]
      rfl
    | some middle =>
      cases x with
      | none => rw [laid_none, laid_none]
      | some bottom => exact congrArg some (h bottom middle top rfl rfl rfl)

-- By induction on the distinct keys of the top layer: below a key that all three have, the layers
-- interrupt each other only if they do so as a whole.
/-- The law for two settings that are laid over a third, which is where an interruption is excluded.
-/
theorem Setting.over_over {top : Setting} (htop : top.Keyed) {bottom middle : Setting}
    (hbottom : bottom.Keyed) (hmiddle : middle.Keyed) (h : ¬ bottom.Interrupts middle top) :
    Setting.over (some (Setting.over (some bottom) middle)) top =
      Setting.over (some bottom) (Setting.over (some middle) top) := by
  induction htop generalizing bottom middle with
  | other htop => rw [over_of_not_isMap htop, over_of_not_isMap htop, over_of_not_isMap htop]
  | @map c distinct values ih =>
    cases hmap : bottom.isMap with
    | false => rw [over_some_of_not_isMap hmap, over_some_of_not_isMap hmap]
    | true =>
      obtain ⟨a, rfl⟩ := isMap_iff.1 hmap
      -- The outer layers are both mappings here, so the middle one has to be one too.
      have hopen : middle.isMap = true := by
        rw [← Bool.not_eq_false]
        exact fun hends => h ⟨[], a, middle, c, rfl, rfl, rfl, hends⟩
      obtain ⟨b, rfl⟩ := isMap_iff.1 hopen
      have hab : (Section.overlay a b).Keyed := Section.Keyed.overlay hbottom hmiddle
      have hbc : (Section.overlay b c).Keyed :=
        Section.Keyed.overlay hmiddle (.map distinct values)
      rw [over_maps, over_maps, over_maps, over_maps]
      refine congrArg Setting.map (Entries.ext_of_lookup ?_ ?_ fun key => ?_)
      · exact Section.nodup_keys_overlay hab.distinct distinct
      · exact Section.keys_overlay_overlay hmiddle.distinct distinct a
      · rw [Section.lookup_overlay distinct, Section.lookup_overlay hmiddle.distinct,
          Section.lookup_overlay hbc.distinct, Section.lookup_overlay distinct]
        refine laid_laid fun x y z hx hy hz => ?_
        exact ih (key, z) (Entries.mem_of_lookup hz) (hbottom.of_lookup hx) (hmiddle.of_lookup hy)
          fun hends => h (hends.of_lookup hx hy hz)

/-- Three layers can be put together from either end if the middle one does not end a mapping that
both others have. -/
theorem Section.overlay_assoc (ha : a.Keyed) (hb : b.Keyed) (hc : c.Keyed)
    (h : ¬ Setting.Interrupts (.map a) (.map b) (.map c)) :
    (a.overlay b).overlay c = a.overlay (b.overlay c) := by
  have hover := Setting.over_over hc ha hb h
  rw [Setting.over_maps, Setting.over_maps, Setting.over_maps, Setting.over_maps] at hover
  exact Setting.map.inj hover

/-- A layer ends none of its own mappings. -/
theorem Setting.not_interrupts_self (bottom top : Setting) :
    ¬ bottom.Interrupts bottom top ∧ ¬ bottom.Interrupts top top := by
  constructor
  · rintro ⟨path, below, between, above, hbelow, -, hbetween, hends⟩
    obtain rfl := Option.some.inj (hbelow.symm.trans hbetween)
    cases hends
  · rintro ⟨path, below, between, above, -, habove, hbetween, hends⟩
    obtain rfl := Option.some.inj (habove.symm.trans hbetween)
    cases hends

/-- The empty layer is neutral on both sides, and a layer that repeats a part of what is there adds
nothing. Three layers come to the same from either end, unless the middle one ends a mapping that
both others have. A settings file over itself is read as the file alone. -/
theorem Section.overlay_laws (ha : a.Keyed) (hb : b.Keyed) (hc : c.Keyed) :
    (a.overlay [] = a ∧ overlay [] a = a ∧ a.overlay a = a) ∧
    ((a.overlay b).overlay b = a.overlay b ∧ a.overlay (a.overlay b) = a.overlay b) ∧
    ((¬ ∃ path below between above, a.at? path = some (.map below) ∧
        c.at? path = some (.map above) ∧ b.at? path = some between ∧ between.isMap = false) →
      (a.overlay b).overlay c = a.overlay (b.overlay c)) ∧
    ∀ envLevel text base, ofText text = .ok base →
      Config.ofTextOver envLevel base text = Config.ofText envLevel text := by
  refine ⟨⟨overlay_nil a, nil_overlay ha, overlay_self ha⟩, ⟨?_, ?_⟩, overlay_assoc ha hb hc, ?_⟩
  · rw [overlay_assoc ha hb hb (Setting.not_interrupts_self _ _).2, overlay_self hb]
  · rw [← overlay_assoc ha ha hb (Setting.not_interrupts_self _ _).1, overlay_self ha]
  · intro envLevel text base hbase
    have hself : base.overlay base = base := overlay_self (keyed_of_ofText hbase)
    unfold Config.ofTextOver Config.ofText
    rw [hbase]
    exact congrArg (Config.read envLevel) hself

/-- A mapping that grows in the middle layer and one that starts there do not keep three layers from
being put together from either end. -/
theorem Section.overlay_laws_growing :
    let a : Section := [("log", .map [("level", .text "INFO")])]
    let b : Section := [("sql", .null), ("log", .map [("dir", .map [])])]
    let c : Section :=
      [("log", .map [("dir", .null)]), ("sql", .map [("paramstyle", .text "qmark")])]
    a.Keyed ∧ b.Keyed ∧ c.Keyed ∧
    (a.overlay b).overlay b = a.overlay b ∧
    (a.overlay b).overlay c = a.overlay (b.overlay c) := by
  intro a b c
  have ha : a.Keyed := by decide
  have hb : b.Keyed := by decide
  have hc : c.Keyed := by decide
  obtain ⟨-, ⟨hrepeat, -⟩, hassoc, -⟩ := overlay_laws ha hb hc
  refine ⟨ha, hb, hc, hrepeat, hassoc ?_⟩
  rintro ⟨path, below, between, above, hbelow, -, hbetween, hends⟩
  -- The lower layer has a mapping as a whole and under one key, and so has the middle one.
  rcases path with _ | ⟨key, path⟩
  · obtain rfl := Option.some.inj hbetween
    cases hends
  have hkey : key = "log" := Decidable.byContradiction fun hne => by
    simp [a, Section.at?, Setting.at?, List.lookup_cons, beq_false_of_ne hne] at hbelow
  subst hkey
  rcases path with _ | ⟨next, path⟩
  · obtain rfl := Option.some.inj hbetween
    cases hends
  have hnext : next = "level" := Decidable.byContradiction fun hne => by
    simp [a, Section.at?, Setting.at?, List.lookup_cons, beq_false_of_ne hne] at hbelow
  subst hnext
  cases path <;> cases hbelow

end StockQuery
