import ImportSurvey.ScanFault

namespace ImportSurvey

/-- Why a text is no alias with its folder. -/
inductive AliasFault where
  | noEqualsSign
  | emptyStem
deriving DecidableEq, Repr

inductive CommandFault where
  /-- The base folder cannot be found. -/
  | base (place : String) (cause : DiskFault)
  /-- The settings are wrong, or cannot be read. -/
  | settings (cause : ScanFault)
  | aliasText (text : String) (cause : AliasFault)
  | survey (place : String) (cause : ScanFault)
deriving DecidableEq, Repr

namespace CommandFault

/-- What went wrong and its reasons, from the outside in. -/
def chain : CommandFault → List String
  | .base place cause => ["cannot open base directory " ++ place, cause.text]
  | .settings cause => cause.chain
  | .aliasText text .noEqualsSign => ["alias `" ++ text ++ "` must look like PREFIX=DIR"]
  | .aliasText text .emptyStem => ["alias `" ++ text ++ "` has an empty prefix"]
  | .survey place cause => ("scan of " ++ place ++ " failed") :: cause.chain

def text (f : CommandFault) : String := chainText f.chain

/-- The fault of a scan behind it, if there is one. -/
def scanFault? : CommandFault → Option ScanFault
  | .settings cause => some cause
  | .survey _ cause => some cause
  | _ => none

end CommandFault

end ImportSurvey
