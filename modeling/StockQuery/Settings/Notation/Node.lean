import StockQuery.Entries
import StockQuery.Settings.Scalar

/-!
# The tree of a settings file

A settings file is read into a tree of nodes first: scalars as they are written, lists, and
mappings. What plain scalars stand for is found in the finished tree, so a text that is laid out
wrongly is refused for that, whatever its scalars are. Of several faults in a tree the outermost one
counts, and among equally deep ones the first.

A plain key `<<` takes over entries: those of the mapping under it, or of each mapping in a list
under it. The entries of a mapping win over those it takes over, and in a list earlier mappings win
over later ones.
-/

namespace StockQuery.Notation

/-- A value as it is written. -/
inductive Node where
  /-- A scalar without quotation marks. -/
  | plain (text : String)
  /-- A scalar that is a text, whatever its form. -/
  | quoted (text : String)
  /-- A list. -/
  | list (items : List Node)
  /-- A mapping; keys may be repeated. -/
  | map (entries : List (Node × Node))
  /-- A mapping that takes over entries from a value that has none. -/
  | orphan

/-- What is wrong with a tree, and at what depth: the number of collections around the place. -/
structure Flaw where
  /-- The depth of the place. -/
  depth : Nat
  /-- What is wrong there. -/
  fault : SettingsFault

/-- Both results, or the outer one of two flaws; the first if they are equally deep. -/
def Flaw.both {α β : Type} : Except Flaw α → Except Flaw β → Except Flaw (α × β)
  | .ok a, .ok b => .ok (a, b)
  | .error flaw, .ok _ => .error flaw
  | .ok _, .error flaw => .error flaw
  | .error first, .error second => .error (if second.depth < first.depth then second else first)

/-- There are two results just when neither side has a flaw. -/
theorem Flaw.both_eq_ok_iff {α β : Type} {x : Except Flaw α} {y : Except Flaw β} {a : α} {b : β} :
    Flaw.both x y = .ok (a, b) ↔ x = .ok a ∧ y = .ok b := by
  cases x <;> cases y <;> simp [Flaw.both]

namespace Node

/-! ## Entries that are taken over -/

/-- Whether a key takes over the entries of its value. -/
def takesOver : Node → Bool
  | plain text => text == "<<"
  | _ => false

/-- The entries of a mapping. -/
def entries? : Node → Option (List (Node × Node))
  | map entries => some entries
  | _ => none

/-- The entries that are taken over from a value. Where a key is repeated the last value stays, so
the first mapping of a list goes to the end. -/
def inherited? : Node → Option (List (Node × Node))
  | list items => (items.mapM entries?).map fun mappings => mappings.reverse.flatten
  | node => node.entries?

/-- A key as it counts in a mapping, where an equals sign is a text. -/
def asKey : Node → Node
  | plain text => if text = "=" then quoted text else plain text
  | node => node

/-- The mapping that is written with these entries. -/
def ofEntries (entries : List (Node × Node)) : Node :=
  let (takers, own) := entries.partition fun entry => entry.1.takesOver
  match takers.mapM fun entry => entry.2.inherited? with
  | some inherited => map (inherited.flatten ++ own.map fun (key, value) => (key.asKey, value))
  | none => orphan

/-! ## What nodes stand for -/

/-- The name of a key at a depth, which has to be a scalar. -/
def name (depth : Nat) : Node → Except Flaw String
  | plain text => ((Scalar.read text).mapError (Flaw.mk depth)).map fun _ => text
  | quoted text => .ok text
  | _ => .error ⟨depth, .unreadable⟩

mutual

/-- The value of a node at a depth. -/
def value (depth : Nat) : Node → Except Flaw Setting
  | plain text => (Scalar.read text).mapError (Flaw.mk depth)
  | quoted text => .ok (.text text)
  | list items => (values (depth + 1) items).map .list
  | map entries => (fields (depth + 1) entries).map fun fields => .map (Entries.ofPairs fields)
  | orphan => .error ⟨depth + 1, .unreadable⟩

/-- The values of the items of a list. -/
def values (depth : Nat) : List Node → Except Flaw (List Setting)
  | [] => .ok []
  | item :: items =>
    (Flaw.both (value depth item) (values depth items)).map fun (first, rest) => first :: rest

/-- The names and values of the entries of a mapping. -/
def fields (depth : Nat) : List (Node × Node) → Except Flaw (List (String × Setting))
  | [] => .ok []
  | (key, node) :: entries =>
    let field := Flaw.both (name depth key) (value depth node)
    (Flaw.both field (fields depth entries)).map fun (first, rest) => first :: rest

end

/-- The settings that a tree stands for. -/
def setting (node : Node) : Except SettingsFault Setting := (node.value 0).mapError Flaw.fault

end Node

end StockQuery.Notation
