import ImportSurvey.Unicode.CodeSet
import ImportSurvey.Unicode.CaseOrbits

namespace ImportSurvey.Unicode

/-- The classes of simple case folding with more than one member. -/
def caseOrbits : List (List Nat) :=
  (caseOrbitText.toList.splitOn ';').map fun orbit =>
    (CodeSet.words orbit).map CodeSet.hexNumber

/-- Adds what differs in case only from a member of the set. -/
def CodeSet.foldCase (s : CodeSet) : CodeSet :=
  s.union (.ofRanges ((caseOrbits.filter (·.any s.contains)).flatten.map fun c => (c, c)))

/-- As `foldCase`, for the letters of ASCII only. -/
def CodeSet.foldAsciiCase (s : CodeSet) : CodeSet :=
  let letters := (List.range 26).map fun k => ['A'.toNat + k, 'a'.toNat + k]
  s.union (.ofRanges ((letters.filter (·.any s.contains)).flatten.map fun c => (c, c)))

end ImportSurvey.Unicode
