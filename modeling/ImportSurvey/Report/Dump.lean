import ImportSurvey.Report.Outline
import ImportSurvey.Survey

namespace ImportSurvey.Report

namespace Dump

/-- What is noted behind a target: the kind of the first import that leads there. -/
def note (record : FileImports) (target : String) : String :=
  match record.imports.find? (·.target == target) with
  | some i =>
    match i.kind with
    | .external => " (external)"
    | .unresolved => " (unresolved)"
    | .resolved => ""
  | none => ""

def targetLine (record : FileImports) (target : String) : String :=
  "  -> " ++ target ++ note record target

/-- The lines of a file. -/
def fileLines (s : Survey) (file : String) : List String :=
  let targets := match s.records.get? file with
    | some record => record.all.map (targetLine record)
    | none => []
  file :: (if targets.isEmpty then ["  (no imports)"] else targets)

def pairLine (pair : MutualPair) : String := pair.first ++ " <-> " ++ pair.second

def lines (s : Survey) : List String :=
  ["# Dependency report: " ++ s.base, "", "## Directory tree", ""] ++
    Outline.lines s.tree ++
    ["", "## Dependencies", ""] ++
    (if s.files.isEmpty then ["(no files in scope)"] else s.files.flatMap (fileLines s)) ++
    ["", "## Mutual dependencies", ""] ++
    (if s.mutualPairs.isEmpty then ["(none)"] else s.mutualPairs.map pairLine)

end Dump

/-- The full dump of a survey as text. -/
def dump (s : Survey) : String := unlines (Dump.lines s)

end ImportSurvey.Report
