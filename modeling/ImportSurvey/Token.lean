import ImportSurvey.Text.Cut
import ImportSurvey.Unicode.Property

namespace ImportSurvey.Token

/-- Whether a token starts with a segment that names the folder itself or the one above. -/
def isRelative (token : String) : Bool :=
  token == "." || token == ".." || "./".toList.isPrefixOf token.toList ||
    "../".toList.isPrefixOf token.toList

/-- Whether a text can stand between the dots of a module name. -/
def isModuleSegment (segment : List Char) : Bool :=
  !segment.isEmpty && segment.all fun c => Unicode.isAlphanumeric c || c == '_'

/-- The climb that leading dots stand for: one is the folder itself, each further one climbs. -/
def climb (dots : Nat) : String :=
  if dots = 1 then "." else "/".intercalate (List.replicate (dots - 1) "..")

/-- A module name with leading dots as a path. A token without a leading dot, with a slash or with
something else between its dots is none, and `.` and `..` are paths already. -/
def dotted? (token : String) : Option String :=
  let text := token.toList
  let dots := (text.takeWhile (· == '.')).length
  let name := text.dropWhile (· == '.')
  if dots = 0 || text.contains '/' then none
  else if name.isEmpty then
    if dots < 3 then none else some (climb dots)
  else if (name.splitOn '.').all isModuleSegment then
    some (climb dots ++ "/" ++ String.ofList (Text.replace '.' '/' name))
  else none

end ImportSurvey.Token
