namespace ImportSurvey.Text

/-- What stands before and after the last occurrence of `mark`. -/
def cutLast? (mark : Char) : List Char → Option (List Char × List Char)
  | [] => none
  | c :: rest =>
    match cutLast? mark rest with
    | some (before, after) => some (c :: before, after)
    | none => if c = mark then some ([], rest) else none

/-- What stands before and after the first occurrence of `mark`. -/
def cutFirst? (mark : Char) : List Char → Option (List Char × List Char)
  | [] => none
  | c :: rest =>
    if c = mark then some ([], rest)
    else (cutFirst? mark rest).map fun (before, after) => (c :: before, after)

/-- What follows `start` in a text that begins with it. -/
def after? : List Char → List Char → Option (List Char)
  | [], text => some text
  | _ :: _, [] => none
  | s :: start, c :: text => if s = c then after? start text else none

/-- What precedes `ending` in a text that ends with it. -/
def before? (ending text : List Char) : Option (List Char) :=
  (after? ending.reverse text.reverse).map List.reverse

/-- Drops every `mark` from the end. -/
def dropTrailing (mark : Char) (text : List Char) : List Char :=
  (text.reverse.dropWhile (· == mark)).reverse

/-- Drops what satisfies `p` from both ends. -/
def trimBoth (p : Char → Bool) (text : List Char) : List Char :=
  ((text.dropWhile p).reverse.dropWhile p).reverse

/-- Puts `new` wherever `old` stands. -/
def replace (old new : Char) (text : List Char) : List Char :=
  text.map fun c => if c = old then new else c

/-- The text with blanks in front, so that it is at least `width` characters long. -/
def padLeft (width : Nat) (text : String) : String :=
  String.ofList (List.replicate (width - text.length) ' ') ++ text

/-- A number with zeros in front, so that it has at least `width` digits. -/
def padZeros (width number : Nat) : String :=
  let digits := toString number
  String.ofList (List.replicate (width - digits.length) '0') ++ digits

/-- The word for one thing or for several. -/
def plural (count : Nat) (one several : String) : String := if count = 1 then one else several

end ImportSurvey.Text
