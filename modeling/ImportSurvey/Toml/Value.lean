namespace ImportSurvey

/-- A TOML value. Of a float only its text is kept; a date or time is kept in its standard form. -/
inductive TomlValue where
  | string (text : String)
  | integer (value : Int)
  | float (text : String)
  | boolean (value : Bool)
  | moment (text : String)
  | array (items : List TomlValue)
  | table (fields : List (String × TomlValue))

namespace TomlValue

/-- The texts of an array of strings. -/
def texts? : TomlValue → Option (List String)
  | .array items => items.mapM fun
    | .string text => some text
    | _ => none
  | _ => none

def boolean? : TomlValue → Option Bool
  | .boolean b => some b
  | _ => none

/-- An integer that is not negative. -/
def count? : TomlValue → Option Nat
  | .integer (.ofNat n) => some n
  | _ => none

end TomlValue

end ImportSurvey
