namespace ImportSurvey.Report

inductive Style where
  | red
  | yellow
  | green
  | cyan
  | boldRed
  | boldYellow
deriving DecidableEq, Repr

namespace Style

/-- The number that switches a style on. -/
def code : Style → String
  | .red => "31"
  | .yellow => "33"
  | .green => "32"
  | .cyan => "36"
  | .boldRed => "1;31"
  | .boldYellow => "1;33"

/-- Whether colours are wanted, by three settings of the environment, each off if it is `0`, and by
whether the output is a terminal. Forcing colours beats forbidding them, and both beat the rest. -/
def wanted (force forbid allow : Option String) (terminal : Bool) : Bool :=
  if force.any (· != "0") then true
  else if forbid.isSome then false
  else terminal && allow.all (· != "0")

/-- The text in a style, if colours are wanted. -/
def paint (coloured : Bool) (s : Style) (text : String) : String :=
  if coloured then "\x1b[" ++ s.code ++ "m" ++ text ++ "\x1b[0m" else text

end Style

end ImportSurvey.Report
