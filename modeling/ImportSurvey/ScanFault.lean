import ImportSurvey.Disk.Fault
import ImportSurvey.Pattern.Basic

namespace ImportSurvey

inductive ScanFault where
  | disk (cause : DiskFault) (place : String)
  /-- The listing of a folder broke off on a walk. -/
  | walk (cause : DiskFault)
  | pattern (text : String) (cause : PatternFault)
  | settings (place : String) (reason : String)
deriving DecidableEq, Repr

/-- A fault told from the outside in, each text the reason of the one before. -/
def chainText (texts : List String) : String := ": ".intercalate texts

def PatternFault.text : PatternFault → String
  | .malformed reason => reason
  | .groupCount found => "expected exactly one capture group, found " ++ toString found

namespace ScanFault

/-- Stands for the place of a fault whose place is not known. -/
def unknownPlace : String := "<unknown>"

/-- A fault of the disk at an unknown place. -/
def ofDisk (cause : DiskFault) : ScanFault := .disk cause unknownPlace

def text : ScanFault → String
  | .disk cause place => "I/O error: " ++ cause.text ++ " (path: " ++ place ++ ")"
  | .walk cause => "Walk error: " ++ cause.text
  | .pattern text cause => "Invalid import pattern " ++ "`" ++ text ++ "`: " ++ cause.text
  | .settings place reason => "Invalid config " ++ place ++ ": " ++ reason

/-- The fault and its reasons. A fault of the disk has its cause as a reason of its own, and one of
a walk has a reason in between, which adds no text without a place. -/
def chain (f : ScanFault) : List String :=
  match f with
  | .disk cause _ => [f.text, cause.text]
  | .walk cause => [f.text, cause.text, cause.text]
  | _ => [f.text]

end ScanFault

end ImportSurvey
