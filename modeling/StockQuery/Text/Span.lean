/-!
# Spans of code points

Character properties are tables of closed spans of code points. A table is searched from its start,
so its order is free; all tables here are ascending.
-/

namespace StockQuery.Text

/-- The code points from `first` to `last`, both included. -/
structure Span where
  /-- The first code point. -/
  first : Nat
  /-- The last code point. -/
  last : Nat

/-- Whether a code point lies in the span. -/
def Span.covers (s : Span) (n : Nat) : Bool := s.first ≤ n && n ≤ s.last

/-- Whether a code point lies in one of the spans. -/
def inSpans (spans : List Span) (n : Nat) : Bool := spans.any (·.covers n)

end StockQuery.Text
