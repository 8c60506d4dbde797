import StockQuery.Settings.Notation.Scalar
import StockQuery.Settings.Scalar

/-!
# The tokens of a settings file

A settings file is cut into tokens from left to right. Some tokens are not written: a block starts
where an entry stands further to the right than those around it, and ends where a line starts
further to the left. And a token in front of a colon turns out to be a key only when the colon is
found, on the same line; the token of the key goes in front of it then.

Where the text cannot be cut further the last token is a fault. Tokens that might still have become
keys are left out in front of it, since what comes after them is not known.
-/

namespace StockQuery.Notation

/-- A token. -/
inductive Token where
  /-- A directive that names the version of the notation. -/
  | version (major : Nat)
  /-- Any other directive. -/
  | directive
  /-- The marker in front of a document. -/
  | documentStart
  /-- The marker behind a document. -/
  | documentEnd
  /-- The start of a list in a block. -/
  | blockList
  /-- The start of a mapping in a block. -/
  | blockMap
  /-- The end of a list or a mapping in a block. -/
  | blockEnd
  /-- The hyphen in front of an item. -/
  | item
  /-- A bracket that opens a list. -/
  | openList
  /-- A bracket that closes a list. -/
  | closeList
  /-- A brace that opens a mapping. -/
  | openMap
  /-- A brace that closes a mapping. -/
  | closeMap
  /-- A comma. -/
  | comma
  /-- The start of a key. -/
  | key
  /-- The colon in front of a value. -/
  | value
  /-- A scalar, plain or not. -/
  | scalar (plain : Bool) (text : String)
  /-- What keeps the rest from being cut into tokens. -/
  | fault (fault : SettingsFault)
deriving DecidableEq, Repr

/-! ## Directives -/

/-- Characters in the name of a directive. -/
def isNameChar (c : Char) : Bool := c.isAlphanum || c == '-' || c == '_'

/-- Reads a directive after its percent sign, up to the end of the line. -/
def readDirective (line : List Char) : Reading Token := do
  let name := line.takeWhile isNameChar
  let rest := line.dropWhile isNameChar
  if name.isEmpty || !endsName rest then unreadable
  if name ≠ "YAML".toList then return .directive
  let number := rest.dropWhile (· == ' ')
  let major := number.takeWhile Char.isDigit
  if major.isEmpty then unreadable
  let version ← Scalar.number 10 major
  match number.dropWhile Char.isDigit with
  | '.' :: fraction =>
    let minor := fraction.takeWhile Char.isDigit
    if minor.isEmpty then unreadable
    let _ ← Scalar.number 10 minor
    let rest := fraction.dropWhile Char.isDigit
    if endsName rest && isIdle rest then return .version version
    unreadable
  | _ => unreadable

/-! ## Cutting a text -/

/-- The most characters between the start of a key and its colon. -/
def keyLimit : Nat := 1024

/-- A token that is a key if a colon follows on its line. -/
structure Candidate where
  /-- The number of tokens before it. -/
  index : Nat
  /-- The number of flow collections around it. -/
  flow : Nat
  /-- Where it starts. -/
  place : Place
  /-- Whether it can be nothing but a key. -/
  required : Bool

/-- A text that is cut into tokens up to some place. -/
structure Scan where
  /-- The text that is left. -/
  here : Cursor
  /-- The tokens so far. -/
  tokens : List Token := []
  /-- The number of flow collections that are open. -/
  flow : Nat := 0
  /-- The columns of the blocks that are open, the innermost one first. -/
  blocks : List Nat := []
  /-- Whether a key may start here. -/
  keyAllowed : Bool := true
  /-- Tokens that may turn out to be keys, at most one for each number of flow collections. -/
  candidates : List Candidate := []

namespace Scan

/-- The column at which lines inside the innermost block have to start, or further. -/
def least (scan : Scan) : Nat := (scan.blocks.head?.map (· + 1)).getD 0

/-- Adds a token and goes on from `here`. -/
def push (token : Token) (here : Cursor) (scan : Scan) : Scan :=
  { scan with here := here, tokens := scan.tokens ++ [token] }

/-- Gives up candidates, which is a fault if one of them is required. -/
def giveUp (given : Candidate → Bool) (scan : Scan) : Reading Scan :=
  if scan.candidates.any fun candidate => given candidate && candidate.required then unreadable
  else .ok { scan with candidates := scan.candidates.filter fun candidate => !given candidate }

/-- Gives up the candidate in the innermost flow collection. -/
def giveUpHere (scan : Scan) : Reading Scan := scan.giveUp (·.flow == scan.flow)

/-- Whether a candidate is too far back to be a key. -/
def isPast (candidate : Candidate) (place : Place) : Bool :=
  candidate.place.line != place.line || candidate.place.offset + keyLimit < place.offset

/-- Makes the next token a candidate, if a key may start here, and lets none start after it. -/
def nominate (scan : Scan) : Reading Scan := do
  if !scan.keyAllowed then return scan
  let required := scan.flow == 0 && scan.blocks.head? == some scan.here.place.column
  let candidate := ⟨scan.tokens.length, scan.flow, scan.here.place, required⟩
  let scan ← scan.giveUpHere
  return { scan with keyAllowed := false, candidates := candidate :: scan.candidates }

/-- Ends the blocks that `isOver` holds of the columns of. In a flow collection blocks do not
end. -/
def endBlocks (isOver : Nat → Bool) (scan : Scan) : Scan :=
  if scan.flow = 0 then
    let ended := scan.blocks.takeWhile isOver
    { scan with
      tokens := scan.tokens ++ ended.map fun _ => Token.blockEnd
      blocks := scan.blocks.dropWhile isOver }
  else scan

/-- Starts a block at a column in front of the token at `index`, unless one is open there or further
to the right. -/
def startBlock (start : Token) (column index : Nat) (scan : Scan) : Scan :=
  if scan.flow = 0 ∧ scan.blocks.all (· < column) then
    { scan with
      tokens := scan.tokens.insertIdx index start
      blocks := column :: scan.blocks }
  else scan

/-- Starts a block here, where an entry of it may stand. -/
def startBlockHere (start : Token) (scan : Scan) : Reading Scan :=
  if scan.flow = 0 ∧ !scan.keyAllowed then unreadable
  else .ok (scan.startBlock start scan.here.place.column scan.tokens.length)

/-- Adds the token of a single character. -/
def pushSign (token : Token) (scan : Scan) : Scan := scan.push token scan.here.next

/-- Reads a hyphen. -/
def readItem (scan : Scan) : Reading Scan := do
  let scan ← scan.startBlockHere .blockList
  let scan ← scan.giveUpHere
  return { scan.pushSign .item with keyAllowed := true }

/-- Reads a question mark in front of a key. -/
def readKey (scan : Scan) : Reading Scan := do
  let scan ← scan.startBlockHere .blockMap
  let scan ← scan.giveUpHere
  return { scan.pushSign .key with keyAllowed := scan.flow == 0 }

/-- Reads a colon: behind a candidate, which is a key then, or behind a key that is marked. -/
def readValue (scan : Scan) : Reading Scan := do
  match scan.candidates.find? (·.flow == scan.flow) with
  | some candidate =>
    let marked := { scan with tokens := scan.tokens.insertIdx candidate.index .key }
    let started := marked.startBlock .blockMap candidate.place.column candidate.index
    return { started.pushSign .value with
      keyAllowed := false
      candidates := scan.candidates.filter (·.flow != scan.flow) }
  | none =>
    let scan ← scan.startBlockHere .blockMap
    return { scan.pushSign .value with keyAllowed := scan.flow == 0 }

/-- Reads a bracket or a brace that opens a flow collection. -/
def readOpening (token : Token) (scan : Scan) : Reading Scan := do
  let scan ← scan.nominate
  return { scan.pushSign token with flow := scan.flow + 1, keyAllowed := true }

/-- Reads a bracket or a brace that closes a flow collection. -/
def readClosing (token : Token) (scan : Scan) : Reading Scan := do
  let scan ← scan.giveUpHere
  return { scan.pushSign token with flow := scan.flow - 1, keyAllowed := false }

/-- Reads a comma. -/
def readComma (scan : Scan) : Reading Scan := do
  let scan ← scan.giveUpHere
  return { scan.pushSign .comma with keyAllowed := true }

/-- Ends all blocks, in front of something that stands outside of documents. -/
def leaveDocument (scan : Scan) : Reading Scan := do
  let scan ← (scan.endBlocks fun _ => true).giveUpHere
  return { scan with keyAllowed := false }

/-- Reads the marker of a document. -/
def readMarker (token : Token) (scan : Scan) : Reading Scan := do
  let scan ← scan.leaveDocument
  return scan.push token scan.here.next.next.next

/-- Reads a scalar that may be a key. -/
def readScalar (scan : Scan) : Reading Scan := do
  let scan ← scan.nominate
  match scan.here.rest with
  | '"' :: _ =>
    let (text, after) ← readDouble scan.here
    return scan.push (.scalar false (String.ofList text)) after
  | '\'' :: _ =>
    let (text, after) ← readSingle scan.here
    return scan.push (.scalar false (String.ofList text)) after
  | rest =>
    if startsPlain (0 < scan.flow) rest then
      let ((text, broke), after) := readPlain (0 < scan.flow) scan.least scan.here
      return { scan.push (.scalar true (String.ofList text)) after with keyAllowed := broke }
    unreadable

/-- Reads the token that starts here. -/
def readToken (scan : Scan) : Reading Scan := do
  let flow := 0 < scan.flow
  match scan.here.rest with
  | '[' :: _ => scan.readOpening .openList
  | '\x7b' :: _ => scan.readOpening .openMap
  | ']' :: _ => scan.readClosing .closeList
  | '\x7d' :: _ => scan.readClosing .closeMap
  | ',' :: _ => scan.readComma
  | '-' :: rest => if endsSign rest then scan.readItem else scan.readScalar
  | '?' :: rest => if flow || endsSign rest then scan.readKey else scan.readScalar
  | ':' :: rest => if flow || endsSign rest then scan.readValue else scan.readScalar
  | '|' :: _ | '>' :: _ =>
    if flow then unreadable
    let scan ← scan.giveUpHere
    let (text, after) ← readBlock (scan.here.rest.head? == some '>') scan.least scan.here
    return { scan.push (.scalar false (String.ofList text)) after with keyAllowed := true }
  | _ => scan.readScalar

/-- Reads a directive, the marker of a document or a token inside of a document. -/
def readNext (scan : Scan) : Reading Scan := do
  let atStart := scan.here.place.column == 0
  if atStart && scan.here.rest.head? == some '%' then
    let scan ← scan.leaveDocument
    return scan.push (← readDirective scan.here.next.line) scan.here.nextLine
  if atStart && isMarker '-' scan.here.rest then scan.readMarker .documentStart
  else if atStart && isMarker '.' scan.here.rest then scan.readMarker .documentEnd
  else scan.readToken

/-- Goes on to the next place that is not filler, where older candidates cannot be keys any more
and blocks may be over. -/
def advance (scan : Scan) : Reading Scan := do
  let (broke, here) := scan.here.skip
  let keyAllowed := scan.keyAllowed || (broke && scan.flow == 0)
  let scan ← { scan with here := here, keyAllowed := keyAllowed }.giveUp (isPast · here.place)
  return scan.endBlocks (here.place.column < ·)

/-- The tokens that are certain: none of them can turn out to be a key. -/
def certain (scan : Scan) : List Token :=
  let pending := scan.candidates.filter fun candidate => !isPast candidate scan.here.place
  match (pending.map Candidate.index).min? with
  | some index => scan.tokens.take index
  | none => scan.tokens

/-- The tokens of a text, which has to have fewer characters than there are steps. -/
def run : Nat → Scan → List Token
  | 0, scan => scan.certain
  | steps + 1, scan =>
    match scan.advance with
    | .error fault => scan.certain ++ [.fault fault]
    | .ok ahead =>
      if ahead.here.rest.isEmpty then
        match ahead.leaveDocument with
        | .error fault => scan.certain ++ [.fault fault]
        | .ok done => done.tokens
      else
        match ahead.readNext with
        | .error fault => scan.certain ++ [.fault fault]
        | .ok next => next.run steps

end Scan

/-- Cuts a text into tokens. -/
def Token.ofText (cs : List Char) : List Token := Scan.run (cs.length + 1) { here := ⟨cs, {}⟩ }

end StockQuery.Notation
