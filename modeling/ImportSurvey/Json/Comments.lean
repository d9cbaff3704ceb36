namespace ImportSurvey.JsonComments

/-- Where a place of the text lies. -/
inductive Mode where
  | plain
  | string
  | line
  | block
deriving DecidableEq, Repr

/-- The text from a place on, without comments. -/
def stripFrom : Mode → List Char → List Char
  | _, [] => []
  | .plain, '"' :: rest => '"' :: stripFrom .string rest
  | .plain, '/' :: '/' :: rest => stripFrom .line rest
  | .plain, '/' :: '*' :: rest => stripFrom .block rest
  | .plain, c :: rest => c :: stripFrom .plain rest
  | .string, '\\' :: c :: rest => '\\' :: c :: stripFrom .string rest
  | .string, '"' :: rest => '"' :: stripFrom .plain rest
  | .string, c :: rest => c :: stripFrom .string rest
  | .line, '\n' :: rest => '\n' :: stripFrom .plain rest
  | .line, _ :: rest => stripFrom .line rest
  | .block, '*' :: '/' :: rest => stripFrom .plain rest
  | .block, _ :: rest => stripFrom .block rest

/-- A text without comments. A line comment goes up to the end of its line, which stays, and a block
comment goes with its marks. What stands in a string is no comment. -/
def strip (text : String) : String := String.ofList (stripFrom .plain text.toList)

end ImportSurvey.JsonComments
