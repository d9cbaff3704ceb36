import ImportSurvey.Pattern.Expr

namespace ImportSurvey.Pattern

open Unicode (CodeSet)

/-- Ten mebibytes. -/
def sizeLimit : Nat := 10 * 1024 * 1024

/-- Room for one state of the automaton. -/
def stateSize : Nat := 32

/-- Room for one way out of a branching state. -/
def branchSize : Nat := 4

/-- Bytes of the encoding of a code point: the first byte, then six bits in each further one. -/
def encode (code : Nat) : List Nat :=
  let tail (k : Nat) : Nat := 0x80 + code / Nat.pow 64 k % 64
  if code < 0x80 then [code]
  else if code < 0x800 then [0xC0 + code / 64, tail 0]
  else if code < 0x10000 then [0xE0 + code / 4096, tail 1, tail 0]
  else [0xF0 + code / 262144, tail 2, tail 1, tail 0]

/-- Where to cut a range so that all its code points share the form of their encoding: at the
lengths of encodings, around the surrogates, and at the blocks that a tail of bytes runs through. -/
def cutPoint? (first last : Nat) : Option Nat :=
  let atBound (bound : Nat) : Option Nat :=
    if first ≤ bound ∧ bound < last then some bound else none
  let atBlock (size : Nat) : Option Nat :=
    if first / size = last / size then none
    else if first % size ≠ 0 then some (first / size * size + size - 1)
    else if last % size ≠ size - 1 then some (last / size * size - 1)
    else none
  (((((atBound 0xD7FF).or (atBound 0xDFFF)).or (atBound 0x7F)).or (atBound 0x7FF)).or
    (atBound 0xFFFF)).or
    (if last < 0x80 then none else ((atBlock 64).or (atBlock 4096)).or (atBlock 262144))

/-- The sequences of byte ranges that encode a range of code points. A range is cut into at most
a dozen or so pieces; the first argument bounds their number. -/
def byteSequences : Nat → Nat → Nat → List (List (Nat × Nat))
  | 0, _, _ => []
  | n + 1, first, last =>
    if last < first ∨ (0xD800 ≤ first ∧ last ≤ 0xDFFF) then []
    else match cutPoint? first last with
      | some cut => byteSequences n first cut ++ byteSequences n (cut + 1) last
      | none => [(encode first).zip (encode last)]

/-- The number of different starts of the sequences of an ordered list. -/
def startCount : List (Nat × Nat) → List (List (Nat × Nat)) → Nat
  | _, [] => 0
  | previous, s :: rest => (s.length - commonStart previous s) + startCount s rest

/-- Room for a class: a state for each different start of a byte sequence, and a branch for each
sequence. A class of ASCII takes one state with all its ranges, and a single character one state
for each of its bytes. -/
def classSize (set : CodeSet) : Nat :=
  match set.ranges.toList with
  | [(first, last)] =>
    if first = last then stateSize * (encode first).length else sizeOfRanges [(first, last)]
  | ranges => sizeOfRanges ranges
where
  sizeOfRanges (ranges : List (Nat × Nat)) : Nat :=
    if set.within 0x7F then 2 * stateSize + 2 * branchSize * ranges.length
    else
      let sequences := ranges.flatMap fun r => byteSequences 32 r.1 r.2
      stateSize * (2 + startCount [] sequences) + branchSize * sequences.length

/-- Room that the automaton of an expression takes. Counted repetitions multiply it. -/
def Expr.size : Expr → Nat
  | .empty => 0
  | .oneOf set => classSize set
  | .anchor _ => stateSize
  | .seq a b => a.size + b.size
  | .either a b => a.size + b.size + stateSize + branchSize
  | .times least most _ body =>
    let branch := stateSize + 2 * branchSize
    match most with
    | none => max least 1 * body.size + 2 * branch
    | some most => least * body.size + (most - least) * (body.size + branch) + stateSize
  | .group _ body => body.size + 2 * stateSize

end ImportSurvey.Pattern
