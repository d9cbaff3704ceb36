import ImportSurvey.Text.Digits
import ImportSurvey.Toml.Value

namespace ImportSurvey.Toml

/-- Digits up to the first other character; a single `_` may stand before a digit and is left
out. -/
def moreDigits? (base : Nat) : List Char → Option (List Char × List Char)
  | [] => some ([], [])
  | '_' :: [] => none
  | '_' :: c :: rest =>
    if Text.isDigitIn base c then (moreDigits? base rest).map fun (ds, r) => (c :: ds, r) else none
  | c :: rest =>
    if Text.isDigitIn base c then (moreDigits? base rest).map fun (ds, r) => (c :: ds, r)
    else some ([], c :: rest)

/-- At least one digit. -/
def digits? (base : Nat) : List Char → Option (List Char × List Char)
  | [] => none
  | c :: rest => if Text.isDigitIn base c then moreDigits? base (c :: rest) else none

/-- Digits of a whole number: no zero stands in front. -/
def wholeDigits? : List Char → Option (List Char × List Char)
  | '0' :: rest => some (['0'], rest)
  | text => digits? 10 text

/-- Whether a sign is there that makes negative, and what follows a sign. -/
def readSign : List Char → Bool × List Char
  | '-' :: rest => (true, rest)
  | '+' :: rest => (false, rest)
  | text => (false, text)

/-- An integer that fits into 64 bits with a sign. -/
def integer? (value : Int) : Option TomlValue :=
  if -0x8000000000000000 ≤ value ∧ value < 0x8000000000000000 then some (.integer value) else none

/-- A number as an integer times a power of ten. -/
structure Scaled where
  negative : Bool
  mantissa : Nat
  exponent : Int

/-- Whether a number rounds to positive infinity as a float of 64 bits: half a step above the
greatest float or more. A number with more than 400 digits before the point does so anyway, and one
with less than 300 does not. -/
def Scaled.overflows (x : Scaled) : Bool :=
  if x.negative || x.mantissa == 0 then false
  else
    let bound := (Nat.pow 2 54 - 1) * Nat.pow 2 970
    let digits : Int := (toString x.mantissa).length + x.exponent
    if 400 < digits then true
    else if digits < 300 then false
    else if 0 ≤ x.exponent then bound ≤ x.mantissa * Nat.pow 10 x.exponent.toNat
    else bound * Nat.pow 10 (-x.exponent).toNat ≤ x.mantissa

/-- The digits after a point, if there is one. -/
def readFraction? : List Char → Option (List Char × List Char)
  | '.' :: rest => digits? 10 rest
  | text => some ([], text)

/-- The exponent after `e`, if there is one. -/
def readExponent? : List Char → Option (Int × List Char)
  | [] => some (0, [])
  | c :: rest =>
    if c = 'e' ∨ c = 'E' then
      let (negative, rest) := readSign rest
      (digits? 10 rest).map fun (ds, r) =>
        let n : Int := Text.numberIn 10 ds
        (if negative then -n else n, r)
    else some (0, c :: rest)

/-- Whether a number goes on as a float after its whole part. -/
def goesOn : List Char → Bool
  | c :: _ => c == '.' || c == 'e' || c == 'E'
  | [] => false

/-- A decimal number, after its sign. -/
def readDecimal? (negative : Bool) (text : List Char) : Option (TomlValue × List Char) := do
  let (whole, rest) ← wholeDigits? text
  if goesOn rest then
    let (fraction, rest) ← readFraction? rest
    let (exponent, rest) ← readExponent? rest
    let x : Scaled :=
      ⟨negative, Text.numberIn 10 (whole ++ fraction), exponent - fraction.length⟩
    if x.overflows then none
    else return (.float (String.ofList (text.take (text.length - rest.length))), rest)
  else
    let n : Int := Text.numberIn 10 whole
    let value ← integer? (if negative then -n else n)
    return (value, rest)

def readInteger? (base : Nat) (text : List Char) : Option (TomlValue × List Char) := do
  let (digits, rest) ← digits? base text
  let value ← integer? (Text.numberIn base digits)
  return (value, rest)

/-- A number that is not finite, after its sign. -/
def readWord? : List Char → Option (TomlValue × List Char)
  | 'i' :: 'n' :: 'f' :: rest => some (.float "inf", rest)
  | 'n' :: 'a' :: 'n' :: rest => some (.float "nan", rest)
  | _ => none

/-- Reads a number. -/
def readNumber? : List Char → Option (TomlValue × List Char)
  | '0' :: 'x' :: rest => readInteger? 16 rest
  | '0' :: 'o' :: rest => readInteger? 8 rest
  | '0' :: 'b' :: rest => readInteger? 2 rest
  | text =>
    let (negative, rest) := readSign text
    match readWord? rest with
    | some answer => some answer
    | none => readDecimal? negative rest

end ImportSurvey.Toml
