import Mathlib.Data.List.Basic
import Mathlib.Data.List.Induction
import StockQuery.Statement

/-!
# Items of one kind

A search tree mixes three kinds of items: terms to look for, terms to leave out, and filters. Its
normal form is built item by item (`NormalQuery.ofTree_append_singleton`), and every item adds to
the part of its own kind. So a part is what the items of its kind say in their order, and where the
items of other kinds stand between them makes no difference. Filters are gathered by name on top of
that: a name has the place of its first item and the values of all its items
(`Filters.foldl_add_eq_gather`).
-/

namespace StockQuery

/-! ## Filters -/

/-- The filters of a list of items: the names in the order in which they first appear, each with the
values of all items of this name. -/
def Filters.gather (items : List FilterItem) : Filters :=
  (items.map FilterItem.name).eraseDups.map fun name =>
    (name, (items.filter (·.name == name)).flatMap FilterItem.criteria)

theorem Filters.foldl_add_append (items : List FilterItem) (item : FilterItem) :
    (items ++ [item]).foldl add [] = (items.foldl add []).add item := by
  rw [List.foldl_append]
  rfl

/-- A name stands where it first appears. -/
theorem Filters.keys_foldl_add (items : List FilterItem) :
    Entries.keys (items.foldl add []) = (items.map FilterItem.name).eraseDups :=
  Entries.keys_foldl_amend FilterItem.name (fun item old => old.getD [] ++ item.criteria) items

theorem Filters.nodup_keys_foldl_add (items : List FilterItem) :
    (Entries.keys (items.foldl add [])).Nodup :=
  Entries.nodup_keys_foldl_amend FilterItem.name (fun item old => old.getD [] ++ item.criteria)
    items List.nodup_nil

/-- Items of another name leave the values of a name as they are. -/
theorem Filters.lookup_foldl_add (items : List FilterItem) (name : String) :
    ((items.foldl add []).lookup name).getD [] =
      (items.filter (·.name == name)).flatMap FilterItem.criteria := by
  induction items using List.reverseRecOn with
  | nil => rfl
  | append_singleton items item ih =>
    rw [foldl_add_append, add, List.filter_append, List.flatMap_append, ← ih]
    by_cases hname : item.name = name
    · subst hname
      rw [Entries.lookup_amend_self]
      simp
    · rw [Entries.lookup_amend_of_ne (Ne.symm hname)]
      simp [hname]

/-- Adding item after item gathers the values of each name. -/
theorem Filters.foldl_add_eq_gather (items : List FilterItem) :
    items.foldl add [] = gather items := by
  rw [Entries.eq_map_lookup [] (nodup_keys_foldl_add items), keys_foldl_add, gather]
  exact List.map_congr_left fun name _ => congrArg _ (lookup_foldl_add items name)

theorem Filters.flatMap_add_perm (filters : Filters) (item : FilterItem) :
    ((filters.add item).flatMap Prod.snd).Perm (filters.flatMap Prod.snd ++ item.criteria) := by
  unfold add
  induction filters with
  | nil => simp [Entries.amend]
  | cons entry rest ih =>
    obtain ⟨name, values⟩ := entry
    by_cases hname : name = item.name
    · rw [Entries.amend, if_pos hname]
      simp only [List.flatMap_cons, Option.getD_some, List.append_assoc]
      exact List.perm_append_comm.append_left values
    · rw [Entries.amend, if_neg hname]
      simp only [List.flatMap_cons, List.append_assoc]
      exact ih.append_left values

/-- No value is lost, and none is there that no item lists. -/
theorem Filters.flatMap_gather_perm (items : List FilterItem) :
    ((gather items).flatMap Prod.snd).Perm (items.flatMap FilterItem.criteria) := by
  rw [← foldl_add_eq_gather]
  induction items using List.reverseRecOn with
  | nil => exact .refl _
  | append_singleton items item ih =>
    rw [foldl_add_append, List.flatMap_append, List.flatMap_singleton]
    exact (flatMap_add_perm _ item).trans (ih.append_right item.criteria)

/-! ## Item by item -/

/-- The normal form with one more item. -/
def NormalQuery.add (query : NormalQuery) : Node → NormalQuery
  | .term t =>
    if t.negated then { query with negations := query.negations ++ [t.exact] }
    else { query with terms := query.terms ++ [t.alternatives] }
  | .filter item => { query with filters := query.filters.add item }

theorem NormalQuery.ofTree_append_singleton (tree : Tree) (node : Node) :
    ofTree (tree ++ [node]) = (ofTree tree).add node := by
  simp only [ofTree, List.filterMap_append, List.map_append, List.foldl_append]
  cases node with
  | term t =>
    cases hnegated : t.negated with
    | true => simp [add, Node.wanted?, Node.unwanted?, Node.filter?, List.filterMap_cons, hnegated]
    | false => simp [add, Node.wanted?, Node.unwanted?, Node.filter?, List.filterMap_cons, hnegated]
  | filter item => simp [add, Node.wanted?, Node.unwanted?, Node.filter?]

theorem NormalQuery.foldl_add_eq_ofTree (tree : Tree) : tree.foldl add {} = ofTree tree := by
  induction tree using List.reverseRecOn with
  | nil => rfl
  | append_singleton tree node ih =>
    rw [ofTree_append_singleton, ← ih, List.foldl_append]
    rfl

/-! ## Kinds -/

/-- The kinds of items. -/
inductive Kind where
  /-- A term that is looked for. -/
  | wanted
  /-- A term that is left out. -/
  | unwanted
  /-- A filter. -/
  | filter
deriving DecidableEq, Repr

/-- The kind of an item. -/
def Node.kind : Node → Kind
  | .term t => if t.negated then .unwanted else .wanted
  | .filter _ => .filter

/-- The items of one kind, in order. -/
def Tree.ofKind (kind : Kind) (tree : Tree) : Tree := tree.filter (·.kind == kind)

/-- Within each kind the trees have the same items in the same order. -/
def Tree.SameOrder (tree tree' : Tree) : Prop := ∀ kind, tree.ofKind kind = tree'.ofKind kind

/-- Trees that keep the order within each kind are rearrangements of each other. -/
theorem Tree.SameOrder.perm {tree tree' : Tree} (h : tree.SameOrder tree') : tree.Perm tree' := by
  rw [List.perm_iff_count]
  intro node
  have hkind : ∀ t : Tree, (t.ofKind node.kind).count node = t.count node :=
    fun t => List.count_filter (beq_self_eq_true _)
  rw [← hkind, h node.kind, hkind]

/-- What is read off the items of one kind only is read off them in the order they have. -/
theorem Tree.SameOrder.filterMap_eq {tree tree' : Tree} (h : tree.SameOrder tree') {α : Type}
    {f : Node → Option α} (kind : Kind) (hf : ∀ node : Node, node.kind ≠ kind → f node = none) :
    tree.filterMap f = tree'.filterMap f := by
  have hpart : ∀ t : Tree, (t.ofKind kind).filterMap f = t.filterMap f := by
    intro t
    rw [ofKind, List.filterMap_filter]
    refine List.filterMap_congr fun node _ => ?_
    by_cases hkind : node.kind = kind
    · simp [hkind]
    · simp [hkind, hf node hkind]
  rw [← hpart, h kind, hpart]

theorem NormalQuery.ofTree_eq_of_sameOrder {tree tree' : Tree} (h : tree.SameOrder tree') :
    ofTree tree = ofTree tree' := by
  have hwanted : tree.filterMap Node.wanted? = tree'.filterMap Node.wanted? := by
    refine h.filterMap_eq .wanted fun node hkind => ?_
    cases node with
    | filter item => rfl
    | term t => simpa [Node.kind, Node.wanted?] using hkind
  have hunwanted : tree.filterMap Node.unwanted? = tree'.filterMap Node.unwanted? := by
    refine h.filterMap_eq .unwanted fun node hkind => ?_
    cases node with
    | filter item => rfl
    | term t => simpa [Node.kind, Node.unwanted?] using hkind
  have hfilters : tree.filterMap Node.filter? = tree'.filterMap Node.filter? := by
    refine h.filterMap_eq .filter fun node hkind => ?_
    cases node with
    | filter item => exact absurd rfl hkind
    | term t => rfl
  rw [ofTree, ofTree, hwanted, hunwanted, hfilters]

/-- Only the order within each kind matters, and nothing is lost. Adding item after item gives the
alternatives of the terms to look for, the exact forms of the terms to leave out, and the filters
gathered by name. So trees that have the same items of each kind in the same order have the same
normal form, the same full-text query under every relaxation, and the same outcome under every
parameter style: a statement, none, or a failure. -/
theorem NormalQuery.ofTree_by_kind (tree : Tree) :
    tree.foldl add {} = ofTree tree ∧
    ofTree tree = ⟨(tree.filterMap Node.wanted?).map Term.alternatives,
      (tree.filterMap Node.unwanted?).map Term.exact,
      Filters.gather (tree.filterMap Node.filter?)⟩ ∧
    (Entries.keys (ofTree tree).filters).Nodup ∧
    ((ofTree tree).filters.flatMap Prod.snd).Perm
      ((tree.filterMap Node.filter?).flatMap FilterItem.criteria) ∧
    ∀ tree' : Tree, tree.SameOrder tree' → tree.Perm tree' ∧ ofTree tree = ofTree tree' ∧
      (∀ relaxation, (ofTree tree).textQuery relaxation = (ofTree tree').textQuery relaxation) ∧
      ∀ relaxation paramstyle : String,
        ((ofTree tree).textQuery relaxation >>= fun text =>
          RankedQuery.compile paramstyle ⟨text, (ofTree tree).filters⟩) =
        ((ofTree tree').textQuery relaxation >>= fun text =>
          RankedQuery.compile paramstyle ⟨text, (ofTree tree').filters⟩) := by
  have hfilters : (ofTree tree).filters = Filters.gather (tree.filterMap Node.filter?) :=
    Filters.foldl_add_eq_gather _
  refine ⟨foldl_add_eq_ofTree tree, ?_, Filters.nodup_keys_foldl_add _, ?_, ?_⟩
  · rw [← hfilters]
    rfl
  · rw [hfilters]
    exact Filters.flatMap_gather_perm _
  · intro tree' h
    have heq := ofTree_eq_of_sameOrder h
    refine ⟨h.perm, heq, fun relaxation => ?_, fun relaxation paramstyle => ?_⟩
    · rw [heq]
    · rw [heq]

/-- A filter without values keeps its place, and as it is not registered, both trees fail alike. -/
theorem NormalQuery.ofTree_by_kind_unregistered :
    Tree.SameOrder [.filter ⟨"planner", ["b"], true⟩, .term ⟨"x", false, false⟩,
        .filter ⟨"site", [], false⟩, .term ⟨"y", false, true⟩, .filter ⟨"planner", ["a"], false⟩]
      [.term ⟨"y", false, true⟩, .filter ⟨"planner", ["b"], true⟩, .filter ⟨"site", [], false⟩,
        .filter ⟨"planner", ["a"], false⟩, .term ⟨"x", false, false⟩] ∧
    ∃ query, ofTree [.term ⟨"y", false, true⟩, .filter ⟨"planner", ["b"], true⟩,
        .filter ⟨"site", [], false⟩, .filter ⟨"planner", ["a"], false⟩,
        .term ⟨"x", false, false⟩] = query ∧
      query = ⟨[["\x7bx\x7d", "%x%"]], ["\x7by\x7d"],
        [("planner", [.negated "b", .plain "a"]), ("site", [])]⟩ ∧
      (query.textQuery "tiered" >>= fun text =>
        RankedQuery.compile "qmark" ⟨text, query.filters⟩) =
          .error (.unregisteredFilter "site") := by
  have hsame : Tree.SameOrder [.filter ⟨"planner", ["b"], true⟩, .term ⟨"x", false, false⟩,
        .filter ⟨"site", [], false⟩, .term ⟨"y", false, true⟩, .filter ⟨"planner", ["a"], false⟩]
      [.term ⟨"y", false, true⟩, .filter ⟨"planner", ["b"], true⟩, .filter ⟨"site", [], false⟩,
        .filter ⟨"planner", ["a"], false⟩, .term ⟨"x", false, false⟩] := by
    intro kind
    cases kind <;> rfl
  obtain ⟨-, -, -, -, hrearranged⟩ := ofTree_by_kind [.filter ⟨"planner", ["b"], true⟩,
    .term ⟨"x", false, false⟩, .filter ⟨"site", [], false⟩, .term ⟨"y", false, true⟩,
    .filter ⟨"planner", ["a"], false⟩]
  obtain ⟨-, hquery, -, houtcome⟩ := hrearranged _ hsame
  refine ⟨hsame, _, rfl, ?_, ?_⟩
  · rw [← hquery]
    decide +kernel
  · rw [← houtcome]
    decide +kernel

end StockQuery
