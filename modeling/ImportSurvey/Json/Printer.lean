import ImportSurvey.Json.Value

namespace ImportSurvey.JsonValue

def hexDigit (n : Nat) : Char := (Nat.digitChar (n % 16))

/-- The characters that stand for one character inside quotes. -/
def escapeChar (c : Char) : List Char :=
  if c = '"' then ['\\', '"']
  else if c = '\\' then ['\\', '\\']
  else if c = '\x08' then ['\\', 'b']
  else if c = '\x0c' then ['\\', 'f']
  else if c = '\n' then ['\\', 'n']
  else if c = '\r' then ['\\', 'r']
  else if c = '\t' then ['\\', 't']
  else if c.toNat < 0x20 then
    ['\\', 'u', '0', '0', hexDigit (c.toNat / 16), hexDigit c.toNat]
  else [c]

def quote (text : String) : String :=
  "\"" ++ String.ofList (text.toList.flatMap escapeChar) ++ "\""

/-- A line end and the blanks of a level. -/
def newLine (level : Nat) : String := "\n" ++ String.ofList (List.replicate (2 * level) ' ')

/-- Rendered parts between brackets, one to a line. -/
def block (opening closing : String) (level : Nat) (parts : List String) : String :=
  if parts.isEmpty then opening ++ closing
  else opening ++ newLine (level + 1) ++ ("," ++ newLine (level + 1)).intercalate parts ++
    newLine level ++ closing

mutual

/-- A value at a level of nesting. -/
def render (level : Nat) : JsonValue → String
  | .null => "null"
  | .boolean b => if b then "true" else "false"
  | .number text => text
  | .string text => quote (text.getD "")
  | .array items => block "[" "]" level (renderItems (level + 1) items)
  | .object fields => block "\x7b" "\x7d" level (renderFields (level + 1) fields)

def renderItems (level : Nat) : List JsonValue → List String
  | [] => []
  | v :: rest => render level v :: renderItems level rest

def renderFields (level : Nat) : List (Option String × JsonValue) → List String
  | [] => []
  | (name, v) :: rest =>
    (quote (name.getD "") ++ ": " ++ render level v) :: renderFields level rest

end

/-- A value as text over several lines. -/
def pretty (v : JsonValue) : String := render 0 v

end ImportSurvey.JsonValue
