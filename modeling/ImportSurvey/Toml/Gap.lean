namespace ImportSurvey.Toml

def isBlank (c : Char) : Bool := c == ' ' || c == '\t'

/-- Characters of comments and quoted texts: all but the controls, of which tabs are allowed. -/
def isTextChar (c : Char) : Bool := c == '\t' || (0x20 ≤ c.toNat && c.toNat != 0x7f)

def skipBlanks (text : List Char) : List Char := text.dropWhile isBlank

/-- What follows a line end. -/
def afterLineEnd? : List Char → Option (List Char)
  | '\n' :: rest => some rest
  | '\r' :: '\n' :: rest => some rest
  | _ => none

/-- What follows a comment, if there is one. -/
def skipComment : List Char → List Char
  | '#' :: rest => rest.dropWhile isTextChar
  | text => text

/-- The lines after the current one, of which only blanks and a comment are left. -/
def nextLine? (text : List Char) : Option (List Char) :=
  match skipComment (skipBlanks text) with
  | [] => some []
  | rest => afterLineEnd? rest

/-- Whether a line end starts with `c`, given what follows. -/
def endsLine (c : Char) (rest : List Char) : Bool := c == '\n' || (c == '\r' && rest.head? == some '\n')

/-- Skips blanks, line ends and comments, starting within a comment or outside. -/
def skipGapFrom : Bool → List Char → List Char
  | _, [] => []
  | false, c :: rest =>
    if isBlank c || endsLine c rest then skipGapFrom false rest
    else if c = '#' then skipGapFrom true rest
    else c :: rest
  | true, c :: rest =>
    if isTextChar c then skipGapFrom true rest
    else if endsLine c rest then skipGapFrom false rest
    else c :: rest

/-- Skips blanks, line ends and comments. -/
def skipGap (text : List Char) : List Char := skipGapFrom false text

/-- Skips blanks and line ends. -/
def skipBlankLines : List Char → List Char
  | [] => []
  | c :: rest => if isBlank c || endsLine c rest then skipBlankLines rest else c :: rest

end ImportSurvey.Toml
