import ImportSurvey.Text.Cut

namespace ImportSurvey.Place

/-- The place of `name` in the folder at `place`; a name with a slash in front is a place of its
own. -/
def join (place name : String) : String :=
  if name.startsWith "/" then name
  else if place.isEmpty || place.endsWith "/" then place ++ name
  else place ++ "/" ++ name

/-- The place that names lead to from a folder. -/
def joinAll (place : String) (names : List String) : String := names.foldl join place

/-- The texts between the slashes. -/
def parts (place : String) : List String := (place.toList.splitOn '/').map String.ofList

/-- The place with the given names from the root. -/
def ofNames (names : List String) : String := "/" ++ "/".intercalate names

/-- Drops slashes and single dots from the end of a reversed place; a dot right at the start
counts. -/
def dropIdle : List Char → List Char
  | '/' :: rest => dropIdle rest
  | '.' :: '/' :: rest => dropIdle rest
  | text => text

/-- The folder that a place lies in, read off its text. -/
def parent? (place : String) : Option String :=
  let text := place.toList
  let absolute := text.head? == some '/'
  match dropIdle text.reverse with
  | [] => none
  | last =>
    match dropIdle (last.dropWhile (· != '/')) with
    | [] => some (if absolute then "/" else "")
    | outer => some (String.ofList outer.reverse)

/-- A place and the folders above it, innermost first. Each one is shorter than the one before, so
as many steps as the text has characters are enough. -/
def above : Nat → String → List String
  | 0, place => [place]
  | n + 1, place =>
    match parent? place with
    | some outer => place :: above n outer
    | none => [place]

/-- A place and the folders above it, outermost first. -/
def chain (place : String) : List String := (above place.length place).reverse

end ImportSurvey.Place
