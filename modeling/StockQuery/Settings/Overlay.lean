import StockQuery.Entries
import StockQuery.Settings.Value

/-!
# Settings in layers

A file of settings is laid over the defaults. Where both layers hold a mapping, the mappings are
laid over each other entry by entry; anywhere else the upper layer's value takes the place of the
lower one's, also when it is nothing. Keys of the lower layer come first, in their order.
-/

namespace StockQuery

mutual

/-- A value laid over what was there before, if anything was. -/
def Setting.over (old : Option Setting) : Setting → Setting
  | .map upper =>
    match old with
    | some (.map lower) => .map (Section.overlay lower upper)
    | _ => .map upper
  | .null => .null
  | .bool value => .bool value
  | .int value => .int value
  | .real text => .real text
  | .text value => .text value
  | .list items => .list items

/-- The entries of the upper layer laid one after the other over the lower layer. -/
def Section.overlay (lower : Section) : Section → Section
  | [] => lower
  | (key, value) :: upper =>
    Section.overlay (Entries.amend key (fun old => Setting.over old value) lower) upper

end

end StockQuery
