import ImportSurvey.Text.Cut
import ImportSurvey.Text.Digits

namespace ImportSurvey.Toml

structure Date where
  year : Nat
  month : Nat
  day : Nat

structure Time where
  hour : Nat
  minute : Nat
  second : Nat
  nanosecond : Nat

/-- How far local time is ahead of universal time. -/
inductive Offset where
  | universal
  | minutes (ahead : Int)

/-- A date, a time, or both, where both together may have an offset. -/
structure Moment where
  date : Option Date
  time : Option Time
  offset : Option Offset

namespace Date

def isLeapYear (year : Nat) : Bool := year % 4 == 0 && (year % 100 != 0 || year % 400 == 0)

def daysIn (year month : Nat) : Nat :=
  if month = 2 then if isLeapYear year then 29 else 28
  else if month = 4 ∨ month = 6 ∨ month = 9 ∨ month = 11 then 30
  else 31

def text (d : Date) : String :=
  Text.padZeros 4 d.year ++ "-" ++ Text.padZeros 2 d.month ++ "-" ++ Text.padZeros 2 d.day

/-- Whether a text goes on as a date. -/
def begins (text : List Char) : Bool :=
  match Text.readDigits? 10 4 text with
  | some (_, '-' :: _) => true
  | _ => false

def read? (text : List Char) : Option (Date × List Char) := do
  let (year, rest) ← Text.readDigits? 10 4 text
  let rest ← Text.after? ['-'] rest
  let (month, rest) ← Text.readDigits? 10 2 rest
  let rest ← Text.after? ['-'] rest
  let (day, rest) ← Text.readDigits? 10 2 rest
  if 1 ≤ month ∧ month ≤ 12 ∧ 1 ≤ day ∧ day ≤ daysIn year month then
    return (⟨year, month, day⟩, rest)
  else none

end Date

namespace Time

/-- A fraction of a second, without zeros at its end. -/
def fractionText (nanosecond : Nat) : String :=
  if nanosecond = 0 then ""
  else
    "." ++ String.ofList (Text.dropTrailing '0' (Text.padZeros 9 nanosecond).toList)

def text (t : Time) : String :=
  Text.padZeros 2 t.hour ++ ":" ++ Text.padZeros 2 t.minute ++ ":" ++ Text.padZeros 2 t.second ++
    fractionText t.nanosecond

/-- Whether a text goes on as a time. -/
def begins (text : List Char) : Bool :=
  match Text.readDigits? 10 2 text with
  | some (_, ':' :: _) => true
  | _ => false

/-- Hours and minutes. -/
def readMinutes? (text : List Char) : Option ((Nat × Nat) × List Char) := do
  let (hour, rest) ← Text.readDigits? 10 2 text
  let rest ← Text.after? [':'] rest
  let (minute, rest) ← Text.readDigits? 10 2 rest
  if hour ≤ 23 ∧ minute ≤ 59 then return ((hour, minute), rest) else none

/-- The nanoseconds of a fraction; further digits do not count. -/
def readFraction : List Char → Nat × List Char
  | '.' :: rest =>
    let digits := rest.takeWhile Char.isDigit
    if digits.isEmpty then (0, '.' :: rest)
    else (Text.numberIn 10 ((digits ++ List.replicate 9 '0').take 9), rest.dropWhile Char.isDigit)
  | text => (0, text)

def read? (text : List Char) : Option (Time × List Char) := do
  let ((hour, minute), rest) ← readMinutes? text
  let rest ← Text.after? [':'] rest
  let (second, rest) ← Text.readDigits? 10 2 rest
  if second ≤ 60 then
    let (nanosecond, rest) := readFraction rest
    return (⟨hour, minute, second, nanosecond⟩, rest)
  else none

end Time

namespace Offset

def text : Offset → String
  | .universal => "Z"
  | .minutes ahead =>
    (if ahead < 0 then "-" else "+") ++ Text.padZeros 2 (ahead.natAbs / 60) ++ ":" ++
      Text.padZeros 2 (ahead.natAbs % 60)

/-- Reads an offset, if there is one. -/
def read? : List Char → Option (Option Offset × List Char)
  | 'Z' :: rest => some (some .universal, rest)
  | 'z' :: rest => some (some .universal, rest)
  | '+' :: rest =>
    (Time.readMinutes? rest).map fun ((h, m), r) => (some (.minutes (h * 60 + m)), r)
  | '-' :: rest =>
    (Time.readMinutes? rest).map fun ((h, m), r) => (some (.minutes (-(h * 60 + m))), r)
  | text => some (none, text)

end Offset

namespace Moment

/-- The standard form. -/
def text (m : Moment) : String :=
  let date := (m.date.map Date.text).getD ""
  let time := (m.time.map Time.text).getD ""
  date ++ (if m.date.isSome && m.time.isSome then "T" else "") ++ time ++
    (m.offset.map Offset.text).getD ""

def begins (text : List Char) : Bool := Date.begins text || Time.begins text

/-- What may stand between a date and a time. -/
def isSeparator (c : Char) : Bool := c == 'T' || c == 't' || c == ' '

/-- The time with its offset that follows a date, if one does. -/
def readAfterDate? (date : Date) : List Char → Option (Moment × List Char)
  | [] => some (⟨some date, none, none⟩, [])
  | c :: rest =>
    if isSeparator c && Time.begins rest then do
      let (time, rest) ← Time.read? rest
      let (offset, rest) ← Offset.read? rest
      return (⟨some date, some time, offset⟩, rest)
    else some (⟨some date, none, none⟩, c :: rest)

def read? (text : List Char) : Option (Moment × List Char) := do
  if Date.begins text then
    let (date, rest) ← Date.read? text
    readAfterDate? date rest
  else
    let (time, rest) ← Time.read? text
    return (⟨none, some time, none⟩, rest)

end Moment

end ImportSurvey.Toml
