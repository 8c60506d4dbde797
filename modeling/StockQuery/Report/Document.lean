/-!
# JSON documents

A document is written either on one line or with one entry per line. Objects keep the order of their
fields. In a text, quotation marks, backslashes and control characters are escaped, and all other
characters stand for themselves.
-/

namespace StockQuery

/-- A JSON document. -/
inductive Document where
  /-- Nothing. -/
  | null
  /-- An integer. -/
  | int (value : Int)
  /-- A text. -/
  | text (value : String)
  /-- A list. -/
  | list (items : List Document)
  /-- An object. -/
  | object (fields : List (String × Document))

namespace Document

/-- The escape of a control character by its code point. -/
def unicodeEscape (c : Char) : List Char :=
  ['\\', 'u', '0', '0', Nat.digitChar (c.toNat / 16), Nat.digitChar (c.toNat % 16)]

/-- A character as it stands in a text. -/
def textChar (c : Char) : List Char :=
  if c = '"' then ['\\', '"']
  else if c = '\\' then ['\\', '\\']
  else if c = '\n' then ['\\', 'n']
  else if c = '\r' then ['\\', 'r']
  else if c = '\t' then ['\\', 't']
  else if c = '\x08' then ['\\', 'b']
  else if c = '\x0c' then ['\\', 'f']
  else if c.toNat < 0x20 then unicodeEscape c
  else [c]

/-- A text between quotation marks. -/
def quoteText (s : String) : String :=
  "\"" ++ String.ofList (s.toList.flatMap textChar) ++ "\""

/-- A line break and the indentation of a depth. -/
def lineBreak (depth : Nat) : String := "\n" ++ String.ofList (List.replicate (2 * depth) ' ')

/-- Entries between two brackets, one per line and one step deeper than the brackets. -/
def block (opening closing : String) (depth : Nat) (entries : List String) : String :=
  if entries.isEmpty then opening ++ closing
  else
    opening ++ lineBreak (depth + 1) ++ String.intercalate ("," ++ lineBreak (depth + 1)) entries
      ++ lineBreak depth ++ closing

mutual

/-- The document with one entry per line, its brackets standing at a depth. -/
def indented (depth : Nat) : Document → String
  | .null => "null"
  | .int value => toString value
  | .text value => quoteText value
  | .list items => block "[" "]" depth (indentedItems (depth + 1) items)
  | .object fields => block "\x7b" "\x7d" depth (indentedFields (depth + 1) fields)

/-- The items of a list. -/
def indentedItems (depth : Nat) : List Document → List String
  | [] => []
  | item :: rest => item.indented depth :: indentedItems depth rest

/-- The fields of an object. -/
def indentedFields (depth : Nat) : List (String × Document) → List String
  | [] => []
  | (name, value) :: rest =>
    (quoteText name ++ ": " ++ value.indented depth) :: indentedFields depth rest

end

mutual

/-- The document on one line. -/
def oneLine : Document → String
  | .null => "null"
  | .int value => toString value
  | .text value => quoteText value
  | .list items => "[" ++ String.intercalate ", " (oneLineItems items) ++ "]"
  | .object fields => "\x7b" ++ String.intercalate ", " (oneLineFields fields) ++ "\x7d"

/-- The items of a list. -/
def oneLineItems : List Document → List String
  | [] => []
  | item :: rest => item.oneLine :: oneLineItems rest

/-- The fields of an object. -/
def oneLineFields : List (String × Document) → List String
  | [] => []
  | (name, value) :: rest => (quoteText name ++ ": " ++ value.oneLine) :: oneLineFields rest

end

end Document

end StockQuery
