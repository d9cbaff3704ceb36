import ImportSurvey.Text.Digits
import ImportSurvey.Toml.Gap

namespace ImportSurvey.Toml

/-- A way of quoting. -/
structure Quotes where
  mark : Char
  /-- Whether a backslash starts an escape. -/
  escapes : Bool
  /-- Whether the marks are triple and the text may have several lines. -/
  long : Bool

/-- The character with a code of `count` hexadecimal digits. -/
def readCode? (count : Nat) (text : List Char) : Option (Char × List Char) := do
  let (code, rest) ← Text.readDigits? 16 count text
  if code.isValidChar then return (Char.ofNat code, rest) else none

/-- The character of an escape, from what follows the backslash. -/
def readEscape? : List Char → Option (Char × List Char)
  | 'b' :: rest => some ('\x08', rest)
  | 'f' :: rest => some ('\x0c', rest)
  | 'n' :: rest => some ('\n', rest)
  | 'r' :: rest => some ('\r', rest)
  | 't' :: rest => some ('\t', rest)
  | '"' :: rest => some ('"', rest)
  | '\\' :: rest => some ('\\', rest)
  | 'u' :: rest => readCode? 4 rest
  | 'U' :: rest => readCode? 8 rest
  | _ => none

/-- What follows a backslash that folds lines: nothing but blanks up to the line end, then any
number of blanks and line ends. -/
def afterFold? (text : List Char) : Option (List Char) :=
  (afterLineEnd? (skipBlanks text)).map skipBlankLines

def consChar (c : Char) (read : Option (List Char × List Char)) : Option (List Char × List Char) :=
  read.map fun (text, rest) => (c :: text, rest)

/-- Reads up to the closing marks. A run of marks closes a long text from three on; up to two marks
before the closing ones belong to the text. Every step takes a character. -/
def readBody? (q : Quotes) : Nat → List Char → Option (List Char × List Char)
  | 0, _ => none
  | _ + 1, [] => none
  | n + 1, c :: rest =>
    if c = q.mark then
      if q.long then
        let run := (rest.takeWhile (· == q.mark)).length + 1
        if run < 3 then consChar c (readBody? q n rest)
        else some (List.replicate (min run 5 - 3) c, rest.drop (min run 5 - 1))
      else some ([], rest)
    else if c = '\\' ∧ q.escapes then
      match if q.long then afterFold? rest else none with
      | some rest => readBody? q n rest
      | none =>
        match readEscape? rest with
        | some (escaped, rest) => consChar escaped (readBody? q n rest)
        | none => none
    else if isTextChar c then consChar c (readBody? q n rest)
    else if q.long then
      match afterLineEnd? (c :: rest) with
      | some rest => consChar '\n' (readBody? q n rest)
      | none => none
    else none

/-- Reads what follows the opening marks. -/
def Quotes.read? (q : Quotes) (text : List Char) : Option (String × List Char) :=
  (readBody? q (text.length + 1) text).map fun (body, rest) => (String.ofList body, rest)

/-- A line end directly after the opening marks does not count. -/
def skipFirstLineEnd (text : List Char) : List Char := (afterLineEnd? text).getD text

/-- Reads a text between single marks. -/
def readShort? : List Char → Option (String × List Char)
  | '"' :: rest => Quotes.read? ⟨'"', true, false⟩ rest
  | '\x27' :: rest => Quotes.read? ⟨'\x27', false, false⟩ rest
  | _ => none

/-- Reads a text between single or triple marks. -/
def readQuoted? : List Char → Option (String × List Char)
  | '"' :: '"' :: '"' :: rest => Quotes.read? ⟨'"', true, true⟩ (skipFirstLineEnd rest)
  | '\x27' :: '\x27' :: '\x27' :: rest =>
    Quotes.read? ⟨'\x27', false, true⟩ (skipFirstLineEnd rest)
  | text => readShort? text

end ImportSurvey.Toml
