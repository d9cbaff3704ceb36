import ImportSurvey.Toml.Moment
import ImportSurvey.Toml.Number
import ImportSurvey.Toml.Quoted
import ImportSurvey.Toml.Table

namespace ImportSurvey.Toml

/-- The least depth of arrays and inline tables, and the least number of parts of a key, that is
refused. -/
def nestingLimit : Nat := 80

def isBareKeyChar (c : Char) : Bool := c.isAlphanum || c == '_' || c == '-'

/-- One part of a key: bare or between single marks. -/
def readKeyPart? (text : List Char) : Option (String × List Char) :=
  match text with
  | [] => none
  | c :: _ =>
    if c = '"' ∨ c = '\x27' then readShort? text
    else if isBareKeyChar c then
      some (String.ofList (text.takeWhile isBareKeyChar), text.dropWhile isBareKeyChar)
    else none

/-- The parts of a key, with points between them. -/
def readKeyParts? : Nat → List Char → Option (List String × List Char)
  | 0, _ => none
  | n + 1, text => do
    let (part, rest) ← readKeyPart? (skipBlanks text)
    match skipBlanks rest with
    | '.' :: rest => (readKeyParts? n rest).map fun (parts, r) => (part :: parts, r)
    | rest => return ([part], rest)

/-- A key of not too many parts, with the blanks around it. -/
def readKey? (text : List Char) : Option (KeyPath × List Char) := do
  let (parts, rest) ← readKeyParts? (text.length + 1) text
  let last ← parts.getLast?
  if parts.length < nestingLimit then return (⟨parts.dropLast, last⟩, rest) else none

/-- Values that are spelled by a word. -/
def readNamed? (text : List Char) : Option (TomlValue × List Char) :=
  match Text.after? "true".toList text with
  | some rest => some (.boolean true, rest)
  | none =>
    match Text.after? "false".toList text with
    | some rest => some (.boolean false, rest)
    | none => readWord? text

/-- A value without parts. -/
def readScalar? (text : List Char) : Option (TomlValue × List Char) :=
  match text with
  | [] => none
  | c :: _ =>
    if c = '"' ∨ c = '\x27' then (readQuoted? text).map fun (s, r) => (.string s, r)
    else if c = '+' ∨ c = '-' ∨ c.isDigit then
      if Moment.begins text then (Moment.read? text).map fun (m, r) => (.moment m.text, r)
      else readNumber? text
    else readNamed? text

mutual

/-- Reads a value that lies in `depth` arrays and inline tables. Of two steps one takes a
character, so twice the length of the text bounds the steps. -/
def readValue? (depth : Nat) : Nat → List Char → Option (TomlValue × List Char)
  | 0, _ => none
  | n + 1, text =>
    match text with
    | '[' :: rest =>
      if depth + 1 < nestingLimit then
        (readItems? (depth + 1) n (skipGap rest)).map fun (vs, r) => (.array vs, r)
      else none
    | '{' :: rest =>
      if depth + 1 < nestingLimit then
        match skipBlanks rest with
        | '}' :: rest => some (.table [], rest)
        | rest => do
          let (pairs, rest) ← readPairs? (depth + 1) n rest
          let table ← inlineTable? pairs
          return (table, rest)
      else none
    | text => readScalar? text

/-- Reads the items of an array and its closing bracket; the last item may have a comma behind
it. -/
def readItems? (depth : Nat) : Nat → List Char → Option (List TomlValue × List Char)
  | 0, _ => none
  | n + 1, text =>
    match text with
    | ']' :: rest => some ([], rest)
    | text => do
      let (v, rest) ← readValue? depth n text
      match skipGap rest with
      | ',' :: rest => (readItems? depth n (skipGap rest)).map fun (vs, r) => (v :: vs, r)
      | ']' :: rest => return ([v], rest)
      | _ => none

/-- Reads the assignments of an inline table, of which there is at least one, and its closing
brace. -/
def readPairs? (depth : Nat) : Nat → List Char → Option (List (KeyPath × TomlValue) × List Char)
  | 0, _ => none
  | n + 1, text => do
    let (key, rest) ← readKey? text
    let rest ← Text.after? ['='] rest
    let (v, rest) ← readValue? depth n (skipBlanks rest)
    match skipBlanks rest with
    | ',' :: rest => (readPairs? depth n rest).map fun (pairs, r) => ((key, v) :: pairs, r)
    | '}' :: rest => return ([(key, v)], rest)
    | _ => none

end

/-- Reads an assignment. -/
def readAssignment? (text : List Char) : Option (Statement × List Char) := do
  let (key, rest) ← readKey? text
  let rest ← Text.after? ['='] rest
  let (v, rest) ← readValue? 0 (2 * rest.length + 2) (skipBlanks rest)
  return (.assignment key v, rest)

/-- Reads an assignment or a header, without what is left of its line. -/
def readStatement? : List Char → Option (Statement × List Char)
  | '[' :: '[' :: rest => do
    let (key, rest) ← readKey? rest
    let rest ← Text.after? [']', ']'] rest
    return (.repeatedHeader key, rest)
  | '[' :: rest => do
    let (key, rest) ← readKey? rest
    let rest ← Text.after? [']'] rest
    return (.header key, rest)
  | text => readAssignment? text

/-- Whether a line has nothing but a comment, from its first character that is no blank. -/
def isBare : List Char → Bool
  | c :: _ => c == '#' || c == '\n' || c == '\r'
  | [] => true

/-- Reads the statements of the lines. Every line takes a character. -/
def readLines? : Nat → List Char → Option (List Statement)
  | 0, _ => none
  | n + 1, text =>
    match skipBlanks text with
    | [] => some []
    | line =>
      if isBare line then (nextLine? line).bind (readLines? n)
      else do
        let (statement, rest) ← readStatement? line
        let rest ← nextLine? rest
        let statements ← readLines? n rest
        return statement :: statements

/-- Drops the mark of byte order at the start. -/
def skipOrderMark : List Char → List Char
  | '\ufeff' :: rest => rest
  | text => text

end Toml

/-- The table that a document spells. -/
def TomlValue.ofDocument? (text : String) : Option TomlValue :=
  let chars := Toml.skipOrderMark text.toList
  ((Toml.readLines? (chars.length + 1) chars).bind Toml.fieldsOf?).map .table

end ImportSurvey
