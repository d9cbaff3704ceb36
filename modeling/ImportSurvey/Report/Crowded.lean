import ImportSurvey.Folder.Tree
import ImportSurvey.Report.Style

namespace ImportSurvey.Report.Crowded

def row (f : CrowdedFolder) : String :=
  "  " ++ Text.padLeft 6 (toString f.fileCount) ++ "  " ++ f.path

def advice (coloured : Bool) : String :=
  "\n  " ++ Style.paint coloured .cyan "→" ++
    " Re-run with --exclude-suspicious or add them to [scan].exclude in strata.toml"

def lines (coloured : Bool) (threshold : Nat) (folders : List CrowdedFolder) : List String :=
  if folders.isEmpty then
    [Style.paint coloured .green
      ("No directories with " ++ toString threshold ++ "+ direct files.")]
  else
    [Style.paint coloured .boldYellow "SUSPICIOUS DIRECTORIES" ++ " (>= " ++ toString threshold ++
      " direct files)"] ++ folders.map row ++ [advice coloured]

end ImportSurvey.Report.Crowded
