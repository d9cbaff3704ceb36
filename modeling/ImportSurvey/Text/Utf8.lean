namespace ImportSurvey.Text.Utf8

/-- A character that lacks some bytes: the code so far, the number of missing bytes, and the range
of the next one. -/
structure Partial where
  code : Nat
  missing : Nat
  low : Nat
  high : Nat
deriving DecidableEq, Repr

/-- What a byte at the start of a character means. -/
inductive Lead where
  | ascii (c : Char)
  | partly (p : Partial)
  | invalid
deriving DecidableEq, Repr

/-- Reads the first byte of a character. The ranges of the second byte leave out the forms that are
too long, the surrogates, and the codes above the last one. -/
def lead (b : Nat) : Lead :=
  if b < 0x80 then .ascii (Char.ofNat b)
  else if b < 0xC2 then .invalid
  else if b < 0xE0 then .partly ⟨b - 0xC0, 1, 0x80, 0xBF⟩
  else if b = 0xE0 then .partly ⟨0, 2, 0xA0, 0xBF⟩
  else if b = 0xED then .partly ⟨0xD, 2, 0x80, 0x9F⟩
  else if b < 0xF0 then .partly ⟨b - 0xE0, 2, 0x80, 0xBF⟩
  else if b = 0xF0 then .partly ⟨0, 3, 0x90, 0xBF⟩
  else if b < 0xF4 then .partly ⟨b - 0xF0, 3, 0x80, 0xBF⟩
  else if b = 0xF4 then .partly ⟨4, 3, 0x80, 0x8F⟩
  else .invalid

def Partial.extend (p : Partial) (b : Nat) : Partial :=
  ⟨p.code * 64 + b % 64, p.missing - 1, 0x80, 0xBF⟩

/-- Decodes bytes. Each character gives an item, and so does each longest run of bytes that could
have started one but did not lead to one. -/
def decodeFrom : Option Partial → List UInt8 → List (Option Char)
  | none, [] => []
  | some _, [] => [none]
  | none, b :: rest =>
    match lead b.toNat with
    | .ascii c => some c :: decodeFrom none rest
    | .partly p => decodeFrom (some p) rest
    | .invalid => none :: decodeFrom none rest
  | some p, b :: rest =>
    if p.low ≤ b.toNat ∧ b.toNat ≤ p.high then
      let p := p.extend b.toNat
      if p.missing = 0 then some (Char.ofNat p.code) :: decodeFrom none rest
      else decodeFrom (some p) rest
    else
      match lead b.toNat with
      | .ascii c => none :: some c :: decodeFrom none rest
      | .partly p => none :: decodeFrom (some p) rest
      | .invalid => none :: none :: decodeFrom none rest

def decode (bytes : List UInt8) : List (Option Char) := decodeFrom none bytes

/-- The text of bytes that are all part of characters. -/
def strict? (bytes : List UInt8) : Option String :=
  ((decode bytes).mapM id).map String.ofList

/-- The text of bytes, with the replacement character for what is no character. -/
def lenient (bytes : List UInt8) : String :=
  String.ofList ((decode bytes).map fun c => c.getD '\ufffd')

end ImportSurvey.Text.Utf8
