import ImportSurvey.Json.Printer
import ImportSurvey.Survey

namespace ImportSurvey.Report

def importJson (i : Import) : JsonValue :=
  .ofFields [("raw", .ofText i.raw), ("target", .ofText i.target), ("kind", .ofText i.kind.name)]

def fileImportsJson (r : FileImports) : JsonValue :=
  .ofFields [("all", .ofTexts r.all), ("resolved", .ofTexts r.resolved),
    ("imports", .array (r.imports.map importJson))]

def issueJson (i : Issue) : JsonValue :=
  .ofFields [("path", .ofText i.path), ("message", .ofText i.message)]

/-- A catalog as an object, in the order of the names. -/
def catalogJson {α : Type} (value : α → JsonValue) (c : Catalog α) : JsonValue :=
  .ofFields (c.entries.map fun e => (e.1, value e.2))

/-- A survey as an object; issues stand in it only if there are any. -/
def surveyJson (s : Survey) : JsonValue :=
  .ofFields ([("base_dir", .ofText s.base), ("tree", catalogJson .ofTexts s.tree.folders),
    ("files", .ofTexts s.files), ("records", catalogJson fileImportsJson s.records)] ++
    if s.issues.isEmpty then [] else [("walk_errors", .array (s.issues.map issueJson))])

def crowdedJson (folders : List CrowdedFolder) : JsonValue :=
  .array (folders.map fun f =>
    .ofFields [("path", .ofText f.path), ("file_count", .ofNat f.fileCount)])

end ImportSurvey.Report
