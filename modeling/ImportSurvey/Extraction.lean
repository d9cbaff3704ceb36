import ImportSurvey.Pattern.Basic
import ImportSurvey.Roster
import ImportSurvey.Text.Cut

namespace ImportSurvey

/-- A way to find imports in a text: for each match, in order, the text that it captures, if any. -/
abbrev Matcher := String → List (Option String)

/-- The text without white space at its ends. -/
def trimmed (text : String) : String :=
  String.ofList (Text.trimBoth Unicode.isWhiteSpace text.toList)

/-- The tokens that one matcher finds, repetitions included. -/
def tokensOf (matcher : Matcher) (content : String) : List String :=
  ((matcher content).filterMap (Option.map trimmed)).filter (!·.isEmpty)

/-- The tokens that the matchers find, one matcher after the other, each token once. -/
def extractTokens (matchers : List Matcher) (content : String) : List String :=
  firstOccurrences (matchers.flatMap (tokensOf · content))

end ImportSurvey
