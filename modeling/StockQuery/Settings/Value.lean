import StockQuery.Text.Quoted

/-!
# Setting values

Settings are nested values: scalars, lists, and mappings whose keys are texts in the order of the
file. Reading a setting checks that it is there and that it is of the right kind; the key in a fault
is the full one, such as `search.max_terms`.
-/

namespace StockQuery

/-- A value in settings. A number with a fraction keeps its text; no setting is of that kind. -/
inductive Setting where
  /-- Nothing. -/
  | null
  /-- A truth value. -/
  | bool (value : Bool)
  /-- An integer. -/
  | int (value : Int)
  /-- A number with a fraction. -/
  | real (text : String)
  /-- A text. -/
  | text (value : String)
  /-- A list. -/
  | list (items : List Setting)
  /-- A mapping. -/
  | map (entries : List (String × Setting))

/-- The entries of a mapping. -/
abbrev Section := List (String × Setting)

/-- What is wrong with settings. -/
inductive SettingsFault where
  /-- A required setting is not there. -/
  | missing (key : String)
  /-- A setting has to be a mapping. -/
  | notObject (key : String)
  /-- A setting has to be a text. -/
  | notText (key : String)
  /-- A setting has to be a truth value. -/
  | notBool (key : String)
  /-- A setting has to be an integer. -/
  | notInt (key : String)
  /-- A setting has to be one of several names. -/
  | notAmong (key : String) (names : List String)
  /-- A setting has to hold more than blanks. -/
  | blank (key : String)
  /-- A setting has to be above zero. -/
  | notPositive (key : String)
  /-- Settings as a whole have to be a mapping. -/
  | rootNotObject
  /-- An integer in a base is written without a digit. -/
  | noDigits (base : Nat)
  /-- An integer is written with more digits than it may have. -/
  | tooManyDigits (limit count : Nat)
  /-- A character is written as a code point beyond the last one. -/
  | noCodePoint
  /-- The text of the settings cannot be read. -/
  | unreadable
deriving DecidableEq, Repr

/-- The fault in words. -/
def SettingsFault.message : SettingsFault → String
  | .missing key => "Missing required config: " ++ key
  | .notObject key => key ++ " must be an object"
  | .notText key => key ++ " must be a string"
  | .notBool key => key ++ " must be a boolean"
  | .notInt key => key ++ " must be an integer"
  | .notAmong key names => key ++ " must be one of " ++ Text.quoteList names
  | .blank key => key ++ " must not be empty"
  | .notPositive key => key ++ " must be positive"
  | .rootNotObject => "Config root must be a mapping/object"
  | .noDigits base => "invalid literal for int() with base " ++ toString base ++ ": ''"
  | .tooManyDigits limit count =>
    "Exceeds the limit (" ++ toString limit ++ " digits) for integer string conversion: value has "
      ++ toString count ++ " digits; use sys.set_int_max_str_digits() to increase the limit"
  | .noCodePoint => "chr() arg not in range(0x110000)"
  | .unreadable => "Config cannot be read"

namespace Setting

/-- The entries of a mapping. -/
def asObject (key : String) : Setting → Except SettingsFault Section
  | .map entries => .ok entries
  | _ => .error (.notObject key)

/-- The value of a text. -/
def asText (key : String) : Setting → Except SettingsFault String
  | .text value => .ok value
  | _ => .error (.notText key)

/-- The value of a truth value. -/
def asBool (key : String) : Setting → Except SettingsFault Bool
  | .bool value => .ok value
  | _ => .error (.notBool key)

/-- The value of an integer. -/
def asInt (key : String) : Setting → Except SettingsFault Int
  | .int value => .ok value
  | _ => .error (.notInt key)

end Setting

namespace Section

/-- A section that has to be there. A section that is set to nothing is not. -/
def required (root : Section) (key : String) : Except SettingsFault Section :=
  match root.lookup key with
  | none | some .null => .error (.missing key)
  | some value => value.asObject key

/-- A section that may be left out: it is empty then. -/
def optional (root : Section) (key : String) : Except SettingsFault Section :=
  match root.lookup key with
  | none | some .null => .ok []
  | some value => value.asObject key

/-- A value that has to be there; `key` is its name in full. -/
def value (entries : Section) (field key : String) : Except SettingsFault Setting :=
  match entries.lookup field with
  | none => .error (.missing key)
  | some value => .ok value

/-- A value that may be left out. -/
def valueOr (entries : Section) (field : String) (default : Setting) : Setting :=
  (entries.lookup field).getD default

end Section

end StockQuery
