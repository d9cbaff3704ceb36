namespace ImportSurvey

/-- A JSON value as written: numbers keep their text, and fields their order and repetitions. A
string whose escapes leave half of a pair of surrogates spells no text. -/
inductive JsonValue where
  | null
  | boolean (value : Bool)
  | number (text : String)
  | string (text : Option String)
  | array (items : List JsonValue)
  | object (fields : List (Option String × JsonValue))

namespace JsonValue

def ofText (text : String) : JsonValue := .string (some text)

def ofNat (n : Nat) : JsonValue := .number (toString n)

def ofTexts (texts : List String) : JsonValue := .array (texts.map ofText)

def ofFields (fields : List (String × JsonValue)) : JsonValue :=
  .object (fields.map fun f => (some f.1, f.2))

end JsonValue

end ImportSurvey
