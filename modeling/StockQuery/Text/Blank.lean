import StockQuery.Text.Span

/-!
# Blank characters

White space, wider than `Char.isWhitespace`: the separators of every script count, and so do the
four information separators U+001C to U+001F. A search string that holds nothing else asks for
nothing, and names in settings are read without blanks at either end.
-/

namespace StockQuery.Text

/-- The code points of blank characters. -/
def blankSpans : List Span := [
  ⟨0x09, 0x0D⟩, ⟨0x1C, 0x20⟩, ⟨0x85, 0x85⟩, ⟨0xA0, 0xA0⟩, ⟨0x1680, 0x1680⟩, ⟨0x2000, 0x200A⟩,
  ⟨0x2028, 0x2029⟩, ⟨0x202F, 0x202F⟩, ⟨0x205F, 0x205F⟩, ⟨0x3000, 0x3000⟩]

/-- Whether a character is white space. -/
def isBlank (c : Char) : Bool := inSpans blankSpans c.toNat

/-- Whether a text has no character but blanks. -/
def allBlank (s : String) : Bool := s.toList.all isBlank

/-- The characters without the blanks at either end. -/
def stripChars (cs : List Char) : List Char :=
  ((cs.dropWhile isBlank).reverse.dropWhile isBlank).reverse

/-- The text without the blanks at either end. -/
def strip (s : String) : String := String.ofList (stripChars s.toList)

end StockQuery.Text
