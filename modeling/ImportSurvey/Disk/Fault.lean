namespace ImportSurvey

inductive DiskFault where
  | missing
  | denied
  | notFolder
  | isFolder
  | nameTooLong
  | linkLoop
  /-- A name with a character of code zero. -/
  | nulInName
  /-- Bytes that are no text where text is needed. -/
  | notText
  | other (text : String)
deriving DecidableEq, Repr

namespace DiskFault

/-- The text of a fault with the number that the operating system gives it. -/
def numbered (text : String) (number : Nat) : String :=
  text ++ " (os error " ++ toString number ++ ")"

def text : DiskFault → String
  | .missing => numbered "No such file or directory" 2
  | .denied => numbered "Permission denied" 13
  | .notFolder => numbered "Not a directory" 20
  | .isFolder => numbered "Is a directory" 21
  | .nameTooLong => numbered "File name too long" 36
  | .linkLoop => numbered "Too many levels of symbolic links" 40
  | .nulInName => "file name contained an unexpected NUL byte"
  | .notText => "stream did not contain valid UTF-8"
  | .other text => text

end DiskFault

end ImportSurvey
