import StockQuery.Settings.Notation.Node
import StockQuery.Settings.Notation.Token

/-!
# Settings files

A settings file is written in a small part of YAML. Block mappings and block lists are laid out by
indentation: the entries of a block start at the same column, and what belongs to an entry stands
further to the right. Flow collections, in brackets, may stand wherever a scalar may. A file holds
one document, which may be empty.

    document := directive* '---' block?  |  block?
    block    := blockList ('-' block?)* blockEnd  |  blockMap (key field? (':' field?)?)* blockEnd
                |  flow
    field    := block  |  ('-' block?)+
    flow     := '[' (pair | flow),* ']'  |  '{' (pair | flow),* '}'  |  scalar
    pair     := key flow? (':' flow?)?

Keys that are not followed by a colon have nothing as their value, and so has a part that is left
out. Of a repeated key the last value stays. Anchors and tags are refused. Each reader is given as
many steps as it can need; every step but the first of a value uses up a token.
-/

namespace StockQuery.Notation

/-- A part that is left out. -/
def Node.nothing : Node := .plain ""

/-- The fault of tokens that do not go on as they have to. -/
def misplaced {α : Type} : List Token → Reading α
  | .fault fault :: _ => .error fault
  | _ => unreadable

/-- Where a value stands, which decides the forms that it may have. -/
inductive Site where
  /-- In a flow collection: no blocks. -/
  | flow
  /-- An item of a block, or a document. -/
  | item
  /-- A key or a value of a block: also a list that is not indented. -/
  | field
deriving DecidableEq

/-- Whether a key or a value of a block is left out. -/
def fieldEnds : List Token → Bool
  | .key :: _ | .value :: _ | .blockEnd :: _ => true
  | _ => false

/-- Whether a key or a value of a flow collection is left out. -/
def flowEnds (close : Token) : List Token → Bool
  | token :: _ => token == .comma || token == close
  | [] => false

mutual

/-- Reads a value. -/
def readNode (site : Site) : Nat → List Token → Reading (Node × List Token)
  | 0, tokens => misplaced tokens
  | steps + 1, tokens =>
    match tokens with
    | .scalar plain text :: rest => .ok (if plain then .plain text else .quoted text, rest)
    | .openList :: rest => do
      let (items, rest) ← readFlowItems steps rest
      return (.list items, rest)
    | .openMap :: rest => do
      let (entries, rest) ← readFlowEntries steps rest
      return (.ofEntries entries, rest)
    | .blockList :: rest =>
      if site = .flow then unreadable
      else do
        let (items, rest) ← readItems steps rest
        match rest with
        | .blockEnd :: rest => return (.list items, rest)
        | _ => misplaced rest
    | .blockMap :: rest =>
      if site = .flow then unreadable
      else do
        let (entries, rest) ← readEntries steps rest
        return (.ofEntries entries, rest)
    | .item :: _ =>
      if site = .field then do
        let (items, rest) ← readItems steps tokens
        return (.list items, rest)
      else unreadable
    | _ => misplaced tokens

/-- Reads the items of a block list, as long as there are hyphens. -/
def readItems : Nat → List Token → Reading (List Node × List Token)
  | 0, tokens => misplaced tokens
  | steps + 1, tokens =>
    match tokens with
    | .item :: rest => do
      let (item, rest) ←
        if rest.head? == some .item || fieldEnds rest then .ok (Node.nothing, rest)
        else readNode .item steps rest
      let (items, rest) ← readItems steps rest
      return (item :: items, rest)
    | _ => .ok ([], tokens)

/-- Reads the entries of a block mapping up to its end. -/
def readEntries : Nat → List Token → Reading (List (Node × Node) × List Token)
  | 0, tokens => misplaced tokens
  | steps + 1, tokens =>
    match tokens with
    | .key :: rest => do
      let (key, rest) ←
        if fieldEnds rest then .ok (Node.nothing, rest) else readNode .field steps rest
      let (value, rest) ←
        match rest with
        | .value :: rest =>
          if fieldEnds rest then .ok (Node.nothing, rest) else readNode .field steps rest
        | _ => .ok (Node.nothing, rest)
      let (entries, rest) ← readEntries steps rest
      return ((key, value) :: entries, rest)
    | .blockEnd :: rest => .ok ([], rest)
    | _ => misplaced tokens

/-- Reads a key that is marked as one, and its value, in a flow collection. -/
def readPair (close : Token) : Nat → List Token → Reading ((Node × Node) × List Token)
  | 0, tokens => misplaced tokens
  | steps + 1, tokens => do
    let (key, rest) ←
      if tokens.head? == some .value || flowEnds close tokens then .ok (Node.nothing, tokens)
      else readNode .flow steps tokens
    let (value, rest) ←
      match rest with
      | .value :: rest =>
        if flowEnds close rest then .ok (Node.nothing, rest) else readNode .flow steps rest
      | _ => .ok (Node.nothing, rest)
    return ((key, value), rest)

/-- Reads the items of a flow list up to its bracket. An item may be a mapping of one entry. -/
def readFlowItems : Nat → List Token → Reading (List Node × List Token)
  | 0, tokens => misplaced tokens
  | steps + 1, tokens =>
    match tokens with
    | .closeList :: rest => .ok ([], rest)
    | _ => do
      let (item, rest) ←
        match tokens with
        | .key :: rest => do
          let (entry, rest) ← readPair .closeList steps rest
          pure (Node.ofEntries [entry], rest)
        | _ => readNode .flow steps tokens
      match rest with
      | .comma :: rest =>
        let (items, rest) ← readFlowItems steps rest
        return (item :: items, rest)
      | .closeList :: rest => return ([item], rest)
      | _ => misplaced rest

/-- Reads the entries of a flow mapping up to its brace. -/
def readFlowEntries : Nat → List Token → Reading (List (Node × Node) × List Token)
  | 0, tokens => misplaced tokens
  | steps + 1, tokens =>
    match tokens with
    | .closeMap :: rest => .ok ([], rest)
    | _ => do
      let (entry, rest) ←
        match tokens with
        | .key :: rest => readPair .closeMap steps rest
        | _ => do
          let (key, rest) ← readNode .flow steps tokens
          pure ((key, Node.nothing), rest)
      match rest with
      | .comma :: rest =>
        let (entries, rest) ← readFlowEntries steps rest
        return (entry :: entries, rest)
      | .closeMap :: rest => return ([entry], rest)
      | _ => misplaced rest

end

/-! ## Documents -/

/-- Reads directives. The version may be said once, and has to be a known one. -/
def readDirectives (said : Bool) : List Token → Reading (List Token)
  | .version major :: rest => if said || major ≠ 1 then unreadable else readDirectives true rest
  | .directive :: rest => readDirectives said rest
  | tokens => .ok tokens

/-- Whether a document with a marker is empty. -/
def isBare : List Token → Bool
  | [] => true
  | token :: _ =>
    match token with
    | .version _ | .directive | .documentStart | .documentEnd => true
    | _ => false

/-- Reads a document with its directives and its marker. -/
def readMarked (steps : Nat) (tokens : List Token) : Reading (Node × List Token) := do
  match ← readDirectives false tokens with
  | .documentStart :: rest =>
    if isBare rest then return (Node.nothing, rest) else readNode .item steps rest
  | rest => misplaced rest

/-- Nothing but end markers may stand behind a document. -/
def readEnd (tokens : List Token) : Reading Unit := do
  match tokens.dropWhile (· == .documentEnd) with
  | [] => return ()
  | rest => misplaced (← readDirectives false rest)

/-- Reads the document of a file. -/
def readDocument (steps : Nat) (tokens : List Token) : Reading Node := do
  match tokens with
  | [] => return Node.nothing
  | .version _ :: _ | .directive :: _ | .documentStart :: _ =>
    let (node, rest) ← readMarked steps tokens
    readEnd rest
    return node
  | _ =>
    let (node, rest) ← readNode .item steps tokens
    readEnd rest
    return node

/-- Whether a settings file may hold the character. -/
def isPermitted (c : Char) : Bool :=
  let n := c.toNat
  n == 0x09 || n == 0x0A || n == 0x0D || (0x20 ≤ n && n ≤ 0x7E) || n == 0x85
    || (0xA0 ≤ n && n ≤ 0xFFFD) || 0x10000 ≤ n

/-- Writes each line end of two characters as one. -/
def joinLineEnds : List Char → List Char
  | '\r' :: '\n' :: cs => '\n' :: joinLineEnds cs
  | c :: cs => c :: joinLineEnds cs
  | [] => []

/-- The characters without a byte order mark at the start. -/
def dropMark : List Char → List Char
  | '\ufeff' :: cs => cs
  | cs => cs

/-- Reads a settings file into a tree. -/
def read (text : String) : Reading Node :=
  if text.toList.all isPermitted then
    let tokens := Token.ofText (dropMark (joinLineEnds text.toList))
    readDocument (4 * tokens.length + 8) tokens
  else unreadable

/-- Whether a document says nothing: such a document is an empty mapping. -/
def saysNothing : Setting → Bool
  | .null => true
  | .bool value => !value
  | .int value => value == 0
  | .real _ => false
  | .text value => value.isEmpty
  | .list items => items.isEmpty
  | .map entries => entries.isEmpty

end StockQuery.Notation

namespace StockQuery

/-- Reads the settings in the text of a file. -/
def Section.ofText (text : String) : Except SettingsFault Section := do
  let node ← Notation.read text
  let value ← node.setting
  if Notation.saysNothing value then return []
  match value with
  | .map entries => return entries
  | _ => throw .rootNotObject

end StockQuery
