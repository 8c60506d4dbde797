import StockQuery.Settings.Value
import StockQuery.Text.Split

/-!
# Plain scalars

A scalar that is not quoted is read by its form: as nothing, a truth value, an integer or a number
with a fraction, and as a text if it has none of these forms. Integers may be written in base 2, 8,
10, 16, or in base 60 with colons (`1:30` is 90), with underscores between digits. A scalar may have
the form of an integer and not stand for one: with underscores in the place of all its digits, or
with too many digits.
-/

namespace StockQuery.Scalar

/-! ## Integers -/

/-- The value of a digit up to `f`, if the character is one. -/
def digit? (c : Char) : Option Nat :=
  if '0' ≤ c ∧ c ≤ '9' then some (c.toNat - '0'.toNat)
  else if 'a' ≤ c ∧ c ≤ 'f' then some (c.toNat - 'a'.toNat + 10)
  else if 'A' ≤ c ∧ c ≤ 'F' then some (c.toNat - 'A'.toNat + 10)
  else none

/-- Whether a character is a digit of a base or an underscore. -/
def isDigitOf (base : Nat) (c : Char) : Bool := c == '_' || (digit? c).any (· < base)

/-- The number that digits stand for; underscores do not count. -/
def valueOf (base : Nat) (cs : List Char) : Nat :=
  (cs.filterMap digit?).foldl (fun n d => n * base + d) 0

/-- The most digits of a decimal number. In bases 2, 8 and 16 there is no limit. -/
def digitLimit : Nat := 4300

/-- The number that digits and underscores of a base have to stand for. -/
def number (base : Nat) (cs : List Char) : Except SettingsFault Nat :=
  let count := cs.countP (· != '_')
  if count = 0 then .error (.noDigits base)
  else if base = 10 ∧ digitLimit < count then .error (.tooManyDigits digitLimit count)
  else .ok (valueOf base cs)

/-- Reads one or more digits of a base, or underscores, if there is nothing else. -/
def digits? (base : Nat) (cs : List Char) : Option (Except SettingsFault Nat) :=
  if !cs.isEmpty && cs.all (isDigitOf base) then some (number base cs) else none

/-- Reads a decimal number that does not start with `0`. -/
def decimal? : List Char → Option (Except SettingsFault Nat)
  | [] => none
  | c :: cs => if c = '0' ∨ c = '_' then none else digits? 10 (c :: cs)

/-- Reads the digits of a place in base 60, the highest one apart. -/
def sixtieths? : List Char → Option Nat
  | [d] => if d.isDigit then some (valueOf 10 [d]) else none
  | [t, d] => if '0' ≤ t ∧ t ≤ '5' ∧ d.isDigit then some (valueOf 10 [t, d]) else none
  | _ => none

/-- Reads a number in base 60, its places between colons. -/
def sexagesimal? (cs : List Char) : Option (Except SettingsFault Nat) :=
  match Text.splitAt ':' cs with
  | first :: second :: rest => do
    let high ← decimal? first
    let places ← (second :: rest).mapM sixtieths?
    return high.map fun n => places.foldl (fun n place => n * 60 + place) n
  | _ => none

/-- Reads an integer without a sign, if the characters have the form of one. -/
def natural? : List Char → Option (Except SettingsFault Nat)
  | '0' :: 'b' :: cs => digits? 2 cs
  | '0' :: 'x' :: cs => digits? 16 cs
  | '0' :: cs => digits? 8 ('0' :: cs)
  | cs => (decimal? cs).or (sexagesimal? cs)

/-- Takes off a sign and says whether it was a minus. -/
def readSign : List Char → Bool × List Char
  | '-' :: cs => (true, cs)
  | '+' :: cs => (false, cs)
  | cs => (false, cs)

/-- Reads an integer, if the characters have the form of one. -/
def integer? (cs : List Char) : Option (Except SettingsFault Int) :=
  let (negative, body) := readSign cs
  (natural? body).map fun number => number.map fun n => if negative then -(n : Int) else n

/-! ## Numbers with a fraction -/

/-- Whether the characters are an exponent with its sign, or nothing. -/
def isExponent : List Char → Bool
  | [] => true
  | e :: sign :: digits =>
    (e == 'e' || e == 'E') && (sign == '+' || sign == '-') && !digits.isEmpty
      && digits.all Char.isDigit
  | [_] => false

/-- Whether the characters are digits after a point, and an exponent. -/
def isFraction (cs : List Char) : Bool := isExponent (cs.dropWhile (isDigitOf 10))

/-- Whether the characters have the form of a number with a fraction. -/
def isReal (cs : List Char) : Bool :=
  let body := (readSign cs).2
  if ['.' :: "inf".toList, '.' :: "Inf".toList, '.' :: "INF".toList].contains body then true
  else if [".nan", ".NaN", ".NAN"].contains (String.ofList cs) then true
  else
    match cs with
    | '.' :: d :: rest => d.isDigit && isFraction rest
    | _ =>
      match body with
      | d :: rest =>
        match rest.dropWhile (isDigitOf 10) with
        | '.' :: fraction => d.isDigit && isFraction fraction
        | _ => false
      | [] => false

/-! ## Names -/

/-- The spellings of nothing. -/
def nulls : List String := ["", "~", "null", "Null", "NULL"]

/-- The spellings of truth. -/
def truths : List String :=
  ["yes", "Yes", "YES", "true", "True", "TRUE", "on", "On", "ON"]

/-- The spellings of falsehood. -/
def falsehoods : List String :=
  ["no", "No", "NO", "false", "False", "FALSE", "off", "Off", "OFF"]

/-- Signs that are reserved when they stand alone. -/
def reserved : List String := ["=", "<<"]

/-- The value of a plain scalar. A reserved sign has none. -/
def read (text : String) : Except SettingsFault Setting :=
  if reserved.contains text then .error .unreadable
  else if nulls.contains text then .ok .null
  else if truths.contains text then .ok (.bool true)
  else if falsehoods.contains text then .ok (.bool false)
  else
    match integer? text.toList with
    | some number => number.map .int
    | none => .ok (if isReal text.toList then .real text else .text text)

end StockQuery.Scalar
