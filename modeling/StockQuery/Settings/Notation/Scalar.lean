import StockQuery.Settings.Notation.Cursor
import StockQuery.Settings.Value

/-!
# Scalars in a settings file

A plain scalar ends where the structure goes on; a quoted one ends at its mark. Either may go on
over several lines: a single line end counts as a space, and further ones stand for themselves.
The line and paragraph separators always stand for themselves. A scalar in a block is made of the
lines that are indented far enough, with all or some of their line ends.
-/

namespace StockQuery.Notation

/-- What is read, or what is wrong with the text. -/
abbrev Reading := Except SettingsFault

/-- The text is not laid out as it has to be. -/
def unreadable {α : Type} : Reading α := .error .unreadable

/-- What has been passed over since the last character of a scalar. -/
inductive Gap where
  /-- Blanks on one line. -/
  | blanks (chars : List Char)
  /-- Line ends. -/
  | lines (ends : List Char)

/-- The character that stands for a line end in a scalar. -/
def lineEnd (c : Char) : Char := if c = '\u2028' ∨ c = '\u2029' then c else '\n'

/-- What a gap adds to a scalar that goes on after it. -/
def Gap.fold : Gap → List Char
  | blanks chars => chars
  | lines ['\n'] => [' ']
  | lines ('\n' :: ends) => ends
  | lines ends => ends

/-- The gap with one more blank. -/
def Gap.addBlank (c : Char) : Gap → Gap
  | blanks chars => blanks (chars ++ [c])
  | lines ends => lines ends

/-- The gap with one more line end. -/
def Gap.addBreak (c : Char) : Gap → Gap
  | blanks _ => lines [lineEnd c]
  | lines ends => lines (ends ++ [lineEnd c])

/-- Whether the gap has a line end. -/
def Gap.isFresh : Gap → Bool
  | blanks _ => false
  | lines _ => true

/-! ## Plain scalars -/

/-- Characters that a plain scalar cannot start with, hyphen, question mark and colon apart. -/
def isIndicator (c : Char) : Bool :=
  [',', '[', ']', '\x7b', '\x7d', '#', '&', '*', '!', '|', '>', '\'', '"', '%', '@',
    '\x60'].contains c

/-- Characters that end a plain scalar in a flow collection. -/
def isFlowSign (c : Char) : Bool := [',', '?', '[', ']', '\x7b', '\x7d'].contains c

/-- Whether a plain scalar may start here. -/
def startsPlain (flow : Bool) (cs : List Char) : Bool :=
  match cs with
  | [] => false
  | c :: rest =>
    if c == '-' then !endsSign rest
    else if c == '?' || c == ':' then !flow && !endsSign rest
    else !endsSign cs && !isIndicator c

/-- Whether a colon that ends a key stands here. -/
def atColon (flow : Bool) : List Char → Bool
  | ':' :: rest => endsSign rest || (flow && rest.head?.any fun c => isFlowSign c && c != '?')
  | _ => false

/-- Reads a plain scalar from inside it: its text, and whether a line ends behind it. Lines that go
on have to start at the column `least` or further, except in a flow collection. -/
def readPlainFrom (flow : Bool) (least : Nat) (gap : Gap) (place : Place) :
    List Char → (List Char × Bool) × Cursor
  | [] => (([], gap.isFresh), ⟨[], place⟩)
  | c :: cs =>
    let stop := (([], gap.isFresh), Cursor.mk (c :: cs) place)
    if c = ' ' then readPlainFrom flow least (gap.addBlank c) (place.after c) cs
    else if isBreak c then
      if endsDocument cs then (([], true), ⟨cs, place.after c⟩)
      else readPlainFrom flow least (gap.addBreak c) (place.after c) cs
    else if c = '\t' || atColon flow (c :: cs) || (flow && isFlowSign c) then stop
    else
      let goesOn :=
        match gap with
        | .blanks [] => true
        | .blanks _ => c != '#'
        | .lines _ => c != '#' && (flow || least ≤ place.column)
      if goesOn then
        let ((text, broke), after) := readPlainFrom flow least (.blanks []) (place.after c) cs
        ((gap.fold ++ c :: text, broke), after)
      else stop

/-- Reads a plain scalar: its text, and whether a line ends behind it. -/
def readPlain (flow : Bool) (least : Nat) (here : Cursor) : (List Char × Bool) × Cursor :=
  readPlainFrom flow least (.blanks []) here.place here.rest

/-! ## Quoted scalars -/

/-- The character of an escape by one letter. -/
def escaped? (c : Char) : Option Char :=
  [('0', '\x00'), ('a', '\x07'), ('b', '\x08'), ('t', '\t'), ('\t', '\t'), ('n', '\n'),
    ('v', '\x0b'), ('f', '\x0c'), ('r', '\r'), ('e', '\x1b'), (' ', ' '), ('"', '"'), ('/', '/'),
    ('\\', '\\'), ('N', '\x85'), ('_', '\xa0'), ('L', '\u2028'), ('P', '\u2029')].lookup c

/-- The number of digits of an escape by code point. -/
def escapeWidth? (c : Char) : Option Nat := [('x', 2), ('u', 4), ('U', 8)].lookup c

/-- The value of a hexadecimal digit, if the character is one. -/
def hexDigit? (c : Char) : Option Nat :=
  if c.isDigit then some (c.toNat - '0'.toNat)
  else if 'a' ≤ c ∧ c ≤ 'f' then some (c.toNat - 'a'.toNat + 10)
  else if 'A' ≤ c ∧ c ≤ 'F' then some (c.toNat - 'A'.toNat + 10)
  else none

/-- The character of a code point. -/
def charOf (n : Nat) : Reading Char :=
  if n.isValidChar then .ok (Char.ofNat n)
  else if n < 0x110000 then unreadable
  else .error .noCodePoint

/-- What is read next inside a quoted scalar. -/
inductive QuotedState where
  /-- Characters, after a gap. -/
  | text (gap : Gap)
  /-- The second character of an escape, or of a doubled mark. -/
  | escape
  /-- The remaining digits of an escape by code point. -/
  | digits (count value : Nat)
  /-- Blanks and further line ends after an escaped line end. -/
  | joined (ends : List Char)

/-- Reads a scalar in quotation marks from inside it. -/
def readDoubleFrom (state : QuotedState) (place : Place) :
    List Char → Reading (List Char × Cursor)
  | [] => unreadable
  | c :: cs =>
    match state with
    | .escape =>
      match escapeWidth? c with
      | some width => readDoubleFrom (.digits width 0) (place.after c) cs
      | none =>
        if isBreak c then
          if endsDocument cs then unreadable else readDoubleFrom (.joined []) (place.after c) cs
        else do
          let some image := escaped? c | unreadable
          let (text, after) ← readDoubleFrom (.text (.blanks [])) (place.after c) cs
          return (image :: text, after)
    | .digits count value => do
      let some digit := hexDigit? c | unreadable
      let value := value * 16 + digit
      if count ≤ 1 then
        let image ← charOf value
        let (text, after) ← readDoubleFrom (.text (.blanks [])) (place.after c) cs
        return (image :: text, after)
      else readDoubleFrom (.digits (count - 1) value) (place.after c) cs
    | .joined ends =>
      if c = ' ' ∨ c = '\t' then readDoubleFrom (.joined ends) (place.after c) cs
      else if isBreak c then
        if endsDocument cs then unreadable
        else readDoubleFrom (.joined (ends ++ [lineEnd c])) (place.after c) cs
      else if c = '"' then .ok (ends, ⟨cs, place.after c⟩)
      else if c = '\\' then do
        let (text, after) ← readDoubleFrom .escape (place.after c) cs
        return (ends ++ text, after)
      else do
        let (text, after) ← readDoubleFrom (.text (.blanks [])) (place.after c) cs
        return (ends ++ c :: text, after)
    | .text gap =>
      if c = ' ' ∨ c = '\t' then readDoubleFrom (.text (gap.addBlank c)) (place.after c) cs
      else if isBreak c then
        if endsDocument cs then unreadable
        else readDoubleFrom (.text (gap.addBreak c)) (place.after c) cs
      else if c = '"' then .ok (gap.fold, ⟨cs, place.after c⟩)
      else if c = '\\' then do
        let (text, after) ← readDoubleFrom .escape (place.after c) cs
        return (gap.fold ++ text, after)
      else do
        let (text, after) ← readDoubleFrom (.text (.blanks [])) (place.after c) cs
        return (gap.fold ++ c :: text, after)

/-- Reads a scalar between apostrophes from inside it; `doubled` says that an apostrophe has just
been read, which ends the scalar unless another one follows. -/
def readSingleFrom (doubled : Bool) (gap : Gap) (place : Place) :
    List Char → Reading (List Char × Cursor)
  | [] => if doubled then .ok (gap.fold, ⟨[], place⟩) else unreadable
  | c :: cs =>
    if doubled then
      if c = '\'' then do
        let (text, after) ← readSingleFrom false (.blanks []) (place.after c) cs
        return (gap.fold ++ c :: text, after)
      else .ok (gap.fold, ⟨c :: cs, place⟩)
    else if c = '\'' then readSingleFrom true gap (place.after c) cs
    else if c = ' ' ∨ c = '\t' then readSingleFrom false (gap.addBlank c) (place.after c) cs
    else if isBreak c then
      if endsDocument cs then unreadable
      else readSingleFrom false (gap.addBreak c) (place.after c) cs
    else do
      let (text, after) ← readSingleFrom false (.blanks []) (place.after c) cs
      return (gap.fold ++ c :: text, after)

/-- Reads a scalar in quotation marks that starts here. -/
def readDouble (here : Cursor) : Reading (List Char × Cursor) :=
  readDoubleFrom (.text (.blanks [])) here.next.place here.next.rest

/-- Reads a scalar between apostrophes that starts here. -/
def readSingle (here : Cursor) : Reading (List Char × Cursor) :=
  readSingleFrom false (.blanks []) here.next.place here.next.rest

/-! ## Scalars in blocks -/

/-- Which line ends stay at the end of a block. -/
inductive Chomping where
  /-- None. -/
  | strip
  /-- That of the last line. -/
  | clip
  /-- All of them. -/
  | keep

/-- The sign of a chomping. -/
def chomping? : Char → Option Chomping
  | '-' => some .strip
  | '+' => some .keep
  | _ => none

/-- The number of an indentation. -/
def indentation? (c : Char) : Option Nat :=
  if '1' ≤ c ∧ c ≤ '9' then some (c.toNat - '0'.toNat) else none

/-- Whether a name or a sign ends here, at a space or at the end of the line. -/
def endsName (line : List Char) : Bool := line.isEmpty || line.head? == some ' '

/-- Whether nothing but a comment stands on the rest of a line. -/
def isIdle (line : List Char) : Bool :=
  match line.dropWhile (· == ' ') with
  | [] => true
  | c :: _ => c == '#'

/-- Reads the first character as a sign, if it is one. -/
def readSign {α : Type} (sign? : Char → Option α) : List Char → Option α × List Char
  | [] => (none, [])
  | c :: cs =>
    match sign? c with
    | some meaning => (some meaning, cs)
    | none => (none, c :: cs)

/-- Reads the line in front of a block, after the sign that starts it: how line ends are kept, and
how far the block is indented, if that is said. The two signs stand in either order. -/
def readBlockHeader (line : List Char) : Reading (Chomping × Option Nat) := do
  let (before, rest) := readSign chomping? line
  let (indentation, rest) := readSign indentation? rest
  let (chomping, rest) :=
    match before with
    | some chomping => (some chomping, rest)
    | none => readSign chomping? rest
  if endsName rest && isIdle rest then return (chomping.getD .clip, indentation)
  unreadable

/-- The furthest column that the spaces in front of the first line with characters reach, or those
on an empty line before it; `deepest` is the furthest one so far. -/
def deepestMargin (column deepest : Nat) : List Char → Nat
  | [] => deepest
  | c :: cs =>
    if c = ' ' then deepestMargin (column + 1) (max deepest (column + 1)) cs
    else if isBreak c then deepestMargin 0 deepest cs
    else deepest

/-- What is read next inside a block. -/
inductive BlockState where
  /-- The margin of a line. `last` is the end of the last line with characters, if there was one,
  and whether that line started with something else than a blank; `ends` are the ends of the empty
  lines since. -/
  | margin (last : Option (Char × Bool)) (ends : List Char)
  /-- The characters of a line; `flush` says whether it started with something else than a blank. -/
  | line (flush : Bool)

/-- The line ends at the end of a block. -/
def BlockState.tail (chomping : Chomping) : BlockState → List Char
  | margin last ends =>
    let final := (last.map Prod.fst).toList
    match chomping with
    | .strip => []
    | .clip => final
    | .keep => final ++ ends
  | line _ => []

/-- The line ends between two lines with characters. In a folded block the end of a line counts as
a space, or as nothing if empty lines follow, unless one of the two lines starts with a blank. -/
def joint (folded flush : Bool) (last : Option (Char × Bool)) (ends : List Char) : List Char :=
  match last with
  | none => ends
  | some (final, flushBefore) =>
    if folded && final == '\n' && flushBefore && flush then
      if ends.isEmpty then [' '] else ends
    else final :: ends

/-- Reads a block from inside it; its lines start at the column `indent`. -/
def readBlockFrom (folded : Bool) (chomping : Chomping) (indent : Nat) (state : BlockState)
    (place : Place) : List Char → List Char × Cursor
  | [] => (state.tail chomping, ⟨[], place⟩)
  | c :: cs =>
    match state with
    | .line flush =>
      if isBreak c then
        readBlockFrom folded chomping indent (.margin (some (lineEnd c, flush)) []) (place.after c)
          cs
      else
        let (text, after) :=
          readBlockFrom folded chomping indent (.line flush) (place.after c) cs
        (c :: text, after)
    | .margin last ends =>
      if c = ' ' ∧ place.column < indent then
        readBlockFrom folded chomping indent (.margin last ends) (place.after c) cs
      else if isBreak c then
        readBlockFrom folded chomping indent (.margin last (ends ++ [lineEnd c])) (place.after c) cs
      else if place.column = indent then
        let flush := c != ' ' && c != '\t'
        let (text, after) :=
          readBlockFrom folded chomping indent (.line flush) (place.after c) cs
        (joint folded flush last ends ++ c :: text, after)
      else (state.tail chomping, ⟨c :: cs, place⟩)

/-- Reads a block whose sign stands here; its lines have to start at the column `least` or
further. -/
def readBlock (folded : Bool) (least : Nat) (here : Cursor) : Reading (List Char × Cursor) := do
  let (chomping, indentation) ← readBlockHeader here.next.line
  let start := here.nextLine
  let indent :=
    match indentation with
    | some width => max 1 least + width - 1
    | none => max (max 1 least) (deepestMargin start.place.column 0 start.rest)
  return readBlockFrom folded chomping indent (.margin none []) start.place start.rest

end StockQuery.Notation
