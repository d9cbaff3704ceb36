import ImportSurvey.Pattern.Expr
import ImportSurvey.Unicode.Folding
import ImportSurvey.Unicode.Property

namespace ImportSurvey.Pattern

open Unicode (CodeSet)

/-- The settings in force at a place of a pattern. -/
structure Flags where
  /-- `i`: letters match in either case. -/
  foldCase : Bool := false
  /-- `m`: the line anchors match at every line. -/
  multiLine : Bool := false
  /-- `s`: the dot matches line ends too. -/
  dotAll : Bool := false
  /-- `U`: repetitions are lazy unless marked. -/
  swapGreed : Bool := false
  /-- `R`: a carriage return ends a line too. -/
  crlf : Bool := false
  /-- `u`: characters are those of all scripts; without it classes hold bytes. -/
  unicode : Bool := true
  /-- `x`: blanks and comments in the pattern do not count. -/
  spaced : Bool := false
deriving DecidableEq, Repr

namespace Flags

/-- Sets the flag with the given letter. -/
def set? (f : Flags) (letter : Char) (on : Bool) : Option Flags :=
  match letter with
  | 'i' => some { f with foldCase := on }
  | 'm' => some { f with multiLine := on }
  | 's' => some { f with dotAll := on }
  | 'U' => some { f with swapGreed := on }
  | 'R' => some { f with crlf := on }
  | 'u' => some { f with unicode := on }
  | 'x' => some { f with spaced := on }
  | _ => none

/-- The greatest member that a class can have. -/
def lastMember (f : Flags) : Nat := if f.unicode then Unicode.lastCode else 0xFF

/-- Adds to a set what counts as the same letters. -/
def fold (f : Flags) (s : CodeSet) : CodeSet :=
  if f.foldCase then if f.unicode then s.foldCase else s.foldAsciiCase else s

/-- A finished class: closed under case if case does not count, then negated. A class of bytes
that holds more than ASCII could match half a character, and is refused. -/
def finishClass? (f : Flags) (negated : Bool) (s : CodeSet) : Option CodeSet :=
  let folded := f.fold s
  let set := if negated then folded.complement f.lastMember else folded
  if f.unicode || set.within 0x7F then some set else none

/-- A character that stands for itself. `fromByte` marks a two-digit escape, which without the
Unicode flag is a byte and may not exceed ASCII. -/
def literal? (f : Flags) (c : Char) (fromByte : Bool) : Option Expr :=
  if !f.unicode && fromByte && c.toNat > 0x7F then none
  else some (.oneOf (f.fold (.single c.toNat)))

/-- A character inside a class. -/
def member? (f : Flags) (c : Char) : Option Nat :=
  if f.unicode || c.toNat ≤ 0x7F then some c.toNat else none

def dot? (f : Flags) : Option Expr :=
  if !f.unicode then none
  else if f.dotAll then some (.oneOf .all)
  else if f.crlf then some (.oneOf ((CodeSet.ofRanges [(10, 10), (13, 13)]).complement Unicode.lastCode))
  else some (.oneOf ((CodeSet.single 10).complement Unicode.lastCode))

/-- The anchor written `^`. -/
def lineStart (f : Flags) : Anchor :=
  if f.multiLine then if f.crlf then .crlfLineStart else .lineStart else .textStart

/-- The anchor written `$`. -/
def lineEnd (f : Flags) : Anchor :=
  if f.multiLine then if f.crlf then .crlfLineEnd else .lineEnd else .textEnd

/-- The ranges of the classes named as in `[:alpha:]`. -/
def asciiClass? (name : String) : Option (List (Nat × Nat)) :=
  match name with
  | "alnum" => some [(0x30, 0x39), (0x41, 0x5A), (0x61, 0x7A)]
  | "alpha" => some [(0x41, 0x5A), (0x61, 0x7A)]
  | "ascii" => some [(0, 0x7F)]
  | "blank" => some [(9, 9), (0x20, 0x20)]
  | "cntrl" => some [(0, 0x1F), (0x7F, 0x7F)]
  | "digit" => some [(0x30, 0x39)]
  | "graph" => some [(0x21, 0x7E)]
  | "lower" => some [(0x61, 0x7A)]
  | "print" => some [(0x20, 0x7E)]
  | "punct" => some [(0x21, 0x2F), (0x3A, 0x40), (0x5B, 0x60), (0x7B, 0x7E)]
  | "space" => some [(9, 13), (0x20, 0x20)]
  | "upper" => some [(0x41, 0x5A)]
  | "word" => some [(0x30, 0x39), (0x41, 0x5A), (0x5F, 0x5F), (0x61, 0x7A)]
  | "xdigit" => some [(0x30, 0x39), (0x41, 0x46), (0x61, 0x66)]
  | _ => none

/-- The class written with one of the letters `d`, `s` and `w`, which are closed under case. -/
def shortClass? (f : Flags) (letter : Char) (negated : Bool) : Option CodeSet :=
  let set :=
    if f.unicode then
      match letter with
      | 'd' => Unicode.decimalDigits
      | 's' => Unicode.whiteSpace
      | _ => Unicode.wordCharacters
    else
      .ofRanges <| (asciiClass? <| match letter with
        | 'd' => "digit"
        | 's' => "space"
        | _ => "word").getD []
  let set := if negated then set.complement f.lastMember else set
  if f.unicode || set.within 0x7F then some set else none

end Flags

end ImportSurvey.Pattern
