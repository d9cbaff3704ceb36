import ImportSurvey.Json.Value
import ImportSurvey.Text.Digits

namespace ImportSurvey.JsonValue

def isBlank (c : Char) : Bool := c == ' ' || c == '\t' || c == '\n' || c == '\r'

def skipBlanks (text : List Char) : List Char := text.dropWhile isBlank

/-- A piece of a string: a character, or a unit of two bytes given by its number. -/
inductive Piece where
  | char (c : Char)
  | unit (code : Nat)

/-- Reads a string after its opening quote. -/
def readPieces? : Nat → List Char → Option (List Piece × List Char)
  | 0, _ => none
  | n + 1, text =>
    match text with
    | [] => none
    | '"' :: rest => some ([], rest)
    | '\\' :: c :: rest =>
      let one (d : Char) := (readPieces? n rest).map fun (ps, r) => (Piece.char d :: ps, r)
      match c with
      | '"' => one '"'
      | '\\' => one '\\'
      | '/' => one '/'
      | 'b' => one '\x08'
      | 'f' => one '\x0c'
      | 'n' => one '\n'
      | 'r' => one '\r'
      | 't' => one '\t'
      | 'u' => do
        let (code, rest) ← Text.readDigits? 16 4 rest
        let (pieces, rest) ← readPieces? n rest
        return (.unit code :: pieces, rest)
      | _ => none
    | c :: rest =>
      if c.toNat < 0x20 then none
      else (readPieces? n rest).map fun (ps, r) => (Piece.char c :: ps, r)

/-- The text that pieces spell: units in the ranges of surrogates count only as a pair, the high
one first. -/
def spell? : List Piece → Option (List Char)
  | [] => some []
  | .char c :: rest => (spell? rest).map (c :: ·)
  | .unit high :: rest =>
    if 0xD800 ≤ high ∧ high ≤ 0xDFFF then
      match rest with
      | .unit low :: rest =>
        if high ≤ 0xDBFF ∧ 0xDC00 ≤ low ∧ low ≤ 0xDFFF then
          (spell? rest).map
            (Char.ofNat (0x10000 + (high - 0xD800) * 0x400 + (low - 0xDC00)) :: ·)
        else none
      | _ => none
    else (spell? rest).map (Char.ofNat high :: ·)

def readString? (text : List Char) : Option (Option String × List Char) :=
  (readPieces? (text.length + 1) text).map fun (pieces, rest) =>
    ((spell? pieces).map String.ofList, rest)

/-- Takes at least one digit. -/
def takeDigits? (text : List Char) : Option (List Char × List Char) :=
  let digits := text.takeWhile Char.isDigit
  if digits.isEmpty then none else some (digits, text.dropWhile Char.isDigit)

def readFraction? : List Char → Option (List Char × List Char)
  | '.' :: rest => (takeDigits? rest).map fun (ds, r) => ('.' :: ds, r)
  | text => some ([], text)

def readExponent? : List Char → Option (List Char × List Char)
  | c :: rest =>
    if c == 'e' || c == 'E' then
      let (sign, rest) := match rest with
        | '+' :: r => (['+'], r)
        | '-' :: r => (['-'], r)
        | r => ([], r)
      (takeDigits? rest).map fun (ds, r) => (c :: sign ++ ds, r)
    else some ([], c :: rest)
  | [] => some ([], [])

def readNumber? (text : List Char) : Option (String × List Char) := do
  let (sign, rest) := match text with
    | '-' :: r => (['-'], r)
    | r => ([], r)
  let (whole, rest) ← takeDigits? rest
  if whole.length ≠ 1 ∧ whole.head? = some '0' then none
  else
    let (fraction, rest) ← readFraction? rest
    let (exponent, rest) ← readExponent? rest
    return (String.ofList (sign ++ whole ++ fraction ++ exponent), rest)

/-- Takes a word. -/
def word? (w : String) (v : JsonValue) (text : List Char) : Option (JsonValue × List Char) :=
  if w.toList.isPrefixOf text then some (v, text.drop w.length) else none

mutual

/-- Reads a value. Every step takes a character, so the length of a text bounds the steps. -/
def readValue? : Nat → List Char → Option (JsonValue × List Char)
  | 0, _ => none
  | n + 1, text =>
    match skipBlanks text with
    | [] => none
    | '"' :: rest => (readString? rest).map fun (s, r) => (.string s, r)
    | '[' :: rest =>
      match skipBlanks rest with
      | ']' :: rest => some (.array [], rest)
      | rest => (readItems? n rest).map fun (vs, r) => (.array vs, r)
    | '{' :: rest =>
      match skipBlanks rest with
      | '}' :: rest => some (.object [], rest)
      | rest => (readFields? n rest).map fun (fs, r) => (.object fs, r)
    | 'n' :: rest => word? "null" .null ('n' :: rest)
    | 't' :: rest => word? "true" (.boolean true) ('t' :: rest)
    | 'f' :: rest => word? "false" (.boolean false) ('f' :: rest)
    | text => (readNumber? text).map fun (s, r) => (.number s, r)

/-- Reads the items of an array, of which there is at least one. -/
def readItems? : Nat → List Char → Option (List JsonValue × List Char)
  | 0, _ => none
  | n + 1, text => do
    let (v, rest) ← readValue? n text
    match skipBlanks rest with
    | ',' :: rest => (readItems? n rest).map fun (vs, r) => (v :: vs, r)
    | ']' :: rest => some ([v], rest)
    | _ => none

/-- Reads the fields of an object, of which there is at least one. -/
def readFields? : Nat → List Char → Option (List (Option String × JsonValue) × List Char)
  | 0, _ => none
  | n + 1, text =>
    match skipBlanks text with
    | '"' :: rest => do
      let (name, rest) ← readString? rest
      match skipBlanks rest with
      | ':' :: rest => do
        let (v, rest) ← readValue? n rest
        match skipBlanks rest with
        | ',' :: rest => (readFields? n rest).map fun (fs, r) => ((name, v) :: fs, r)
        | '}' :: rest => some ([(name, v)], rest)
        | _ => none
      | _ => none
    | _ => none

end

/-- The value that a text spells. -/
def ofJsonText? (text : String) : Option JsonValue :=
  let chars := text.toList
  match readValue? (2 * chars.length + 2) chars with
  | some (v, rest) => if (skipBlanks rest).isEmpty then some v else none
  | none => none

end ImportSurvey.JsonValue
