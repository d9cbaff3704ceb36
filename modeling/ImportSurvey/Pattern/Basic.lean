import ImportSurvey.Pattern.Reader
import ImportSurvey.Pattern.Search
import ImportSurvey.Pattern.Size

namespace ImportSurvey

/-- Why a text is no import pattern. -/
inductive PatternFault where
  /-- The text is no expression, or one whose automaton would be too large. -/
  | malformed (reason : String)
  | groupCount (found : Nat)
deriving DecidableEq, Repr

/-- An import pattern, ready to search with. -/
structure ImportPattern where
  text : String
  program : Pattern.Program

namespace ImportPattern

/-- Reads a pattern text. The reasons given for a text that is no expression, and for an expression
that is too large, stand for the messages of a regular expression library, whose wording differs
from text to text. -/
def ofText (text : String) : Except PatternFault ImportPattern :=
  match Pattern.Expr.ofText? text with
  | none => .error (.malformed "the text is no regular expression")
  | some e =>
    if Pattern.sizeLimit < e.size then .error (.malformed "the expression is too large")
    else if e.groupCount ≠ 1 then .error (.groupCount e.groupCount)
    else .ok ⟨text, .ofExpr e⟩

/-- The text of the first group in each match, in order; a match may leave the group out. -/
def groupTexts (p : ImportPattern) (content : String) : List (Option String) :=
  let text := content.toList
  let chars := text.toArray
  (p.program.matches text).map fun m =>
    m.group.map fun (first, last) => String.ofList (chars.extract first last).toList

end ImportPattern

end ImportSurvey
