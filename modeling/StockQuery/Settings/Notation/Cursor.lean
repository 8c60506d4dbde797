/-!
# Places in a settings file

Settings are read from left to right, and where a line starts and how far it is indented matters.
A cursor is the rest of the text together with the place where it starts.
-/

namespace StockQuery.Notation

/-- A place in the text. -/
structure Place where
  /-- The number of characters before it. -/
  offset : Nat := 0
  /-- The number of lines before it. -/
  line : Nat := 0
  /-- The number of columns before it on its line. -/
  column : Nat := 0

/-- Characters that end a line. -/
def isBreak (c : Char) : Bool := ['\n', '\r', '\x85', '\u2028', '\u2029'].contains c

/-- The place after a character. A byte order mark takes no column. -/
def Place.after (c : Char) (place : Place) : Place :=
  if isBreak c then ⟨place.offset + 1, place.line + 1, 0⟩
  else ⟨place.offset + 1, place.line, if c = '\ufeff' then place.column else place.column + 1⟩

/-- Whether a sign ends here: at a space, a tab, the end of the line or the end of the text. -/
def endsSign : List Char → Bool
  | [] => true
  | c :: _ => c == ' ' || c == '\t' || isBreak c

/-- Whether a document marker, three hyphens or three points, stands here. -/
def isMarker (sign : Char) : List Char → Bool
  | a :: b :: c :: rest => a == sign && b == sign && c == sign && endsSign rest
  | _ => false

/-- Whether the document ends at the start of a line. -/
def endsDocument (cs : List Char) : Bool := isMarker '-' cs || isMarker '.' cs

/-- The text from a place on. -/
structure Cursor where
  /-- The characters from here on. -/
  rest : List Char
  /-- Where they start. -/
  place : Place

namespace Cursor

/-- The cursor after one more character. -/
def next (here : Cursor) : Cursor :=
  match here.rest with
  | [] => here
  | c :: cs => ⟨cs, here.place.after c⟩

/-- The characters from here to the end of the line. -/
def line (here : Cursor) : List Char := here.rest.takeWhile fun c => !isBreak c

/-- The start of the next line after a place. -/
def nextLineFrom (place : Place) : List Char → Cursor
  | [] => ⟨[], place⟩
  | c :: cs =>
    if isBreak c then ⟨cs, place.after c⟩ else nextLineFrom (place.after c) cs

/-- The start of the next line, or the end of the text. -/
def nextLine (here : Cursor) : Cursor := nextLineFrom here.place here.rest

/-- The first place that is not filler, and whether a line ends before it; `comment` says whether
the place is inside a comment. -/
def skipFrom (comment broke : Bool) (place : Place) : List Char → Bool × Cursor
  | [] => (broke, ⟨[], place⟩)
  | c :: cs =>
    if isBreak c then skipFrom false true (place.after c) cs
    else if comment || c == ' ' || c == '#' then
      skipFrom (comment || c == '#') broke (place.after c) cs
    else (broke, ⟨c :: cs, place⟩)

/-- The first place from here on that is not filler, that is spaces, comments and line ends, and
whether a line ends before it. -/
def skip (here : Cursor) : Bool × Cursor := skipFrom false false here.place here.rest

end Cursor

end StockQuery.Notation
