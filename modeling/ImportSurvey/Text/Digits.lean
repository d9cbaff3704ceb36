namespace ImportSurvey.Text

/-- The value of a hexadecimal digit, in either case. -/
def digitValue? (c : Char) : Option Nat :=
  if c.isDigit then some (c.toNat - '0'.toNat)
  else if 'a' ≤ c ∧ c ≤ 'f' then some (c.toNat - 'a'.toNat + 10)
  else if 'A' ≤ c ∧ c ≤ 'F' then some (c.toNat - 'A'.toNat + 10)
  else none

def isDigitIn (base : Nat) (c : Char) : Bool := (digitValue? c).any (· < base)

/-- The number that digits write in a base, the first one counting most. -/
def numberIn (base : Nat) (digits : List Char) : Nat :=
  digits.foldl (fun n c => n * base + (digitValue? c).getD 0) 0

/-- The number written by exactly `count` digits, and what follows them. -/
def readDigits? (base count : Nat) (text : List Char) : Option (Nat × List Char) :=
  let digits := text.take count
  if digits.length = count ∧ digits.all (isDigitIn base) then
    some (numberIn base digits, text.drop count)
  else none

end ImportSurvey.Text
