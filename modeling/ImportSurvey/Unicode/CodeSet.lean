namespace ImportSurvey.Unicode

/-- A set of code points, as its maximal ranges (both ends included) in increasing order. -/
structure CodeSet where
  ranges : Array (Nat × Nat)
deriving DecidableEq, Inhabited, Repr

/-- The greatest code point. -/
def lastCode : Nat := 0x10FFFF

namespace CodeSet

/-- Joins neighbouring ranges that overlap or touch, in a list ordered by first code point. -/
def joinTouching : Nat × Nat → List (Nat × Nat) → List (Nat × Nat)
  | r, [] => [r]
  | r, s :: rest =>
    if s.1 ≤ r.2 + 1 then joinTouching (r.1, max r.2 s.2) rest
    else r :: joinTouching s rest

/-- The set covered by any list of ranges. -/
def ofRanges (ranges : List (Nat × Nat)) : CodeSet :=
  match ranges.mergeSort (fun a b => a.1 ≤ b.1) with
  | [] => ⟨#[]⟩
  | r :: rest => ⟨(joinTouching r rest).toArray⟩

def empty : CodeSet := ⟨#[]⟩

def range (first last : Nat) : CodeSet := ⟨#[(first, last)]⟩

def single (code : Nat) : CodeSet := range code code

/-- Every code point. -/
def all : CodeSet := range 0 lastCode

def isEmpty (s : CodeSet) : Bool := s.ranges.isEmpty

/-- Whether the set has exactly one code point. -/
def isSingle (s : CodeSet) : Bool :=
  match s.ranges.toList with
  | [(first, last)] => first == last
  | _ => false

def union (s t : CodeSet) : CodeSet := ofRanges (s.ranges.toList ++ t.ranges.toList)

/-- The gaps that a list of ranges leaves between `start` and `last`. -/
def gaps (last : Nat) : Nat → List (Nat × Nat) → List (Nat × Nat)
  | start, [] => if start ≤ last then [(start, last)] else []
  | start, r :: rest =>
    if start < r.1 then (start, r.1 - 1) :: gaps last (r.2 + 1) rest
    else gaps last (r.2 + 1) rest

/-- The code points up to `last` that are not in the set. -/
def complement (s : CodeSet) (last : Nat) : CodeSet :=
  ⟨(gaps last 0 s.ranges.toList).toArray⟩

def inter (s t : CodeSet) : CodeSet :=
  ((s.complement lastCode).union (t.complement lastCode)).complement lastCode

def diff (s t : CodeSet) : CodeSet := s.inter (t.complement lastCode)

/-- The code points of exactly one of the two sets. -/
def symmDiff (s t : CodeSet) : CodeSet := (s.union t).diff (s.inter t)

/-- Binary search for a range that holds `code`, among the ranges from `low` up to `high`. -/
def search (ranges : Array (Nat × Nat)) (code low high : Nat) : Bool :=
  if low < high then
    let middle := (low + high) / 2
    match ranges[middle]? with
    | none => false
    | some (first, last) =>
      if code < first then search ranges code low middle
      else if last < code then search ranges code (middle + 1) high
      else true
  else false
termination_by high - low

def contains (s : CodeSet) (code : Nat) : Bool := search s.ranges code 0 s.ranges.size

def containsChar (s : CodeSet) (c : Char) : Bool := s.contains c.toNat

/-- Whether every code point of the set is at most `code`. -/
def within (s : CodeSet) (code : Nat) : Bool := s.ranges.all fun r => r.2 ≤ code

/-- The number written by hexadecimal digits; other characters count as zero. -/
def hexNumber (digits : List Char) : Nat :=
  digits.foldl (fun n d =>
    16 * n + (if d.isDigit then d.toNat - '0'.toNat else (d.toNat - 'A'.toNat + 10) % 16)) 0

/-- Reads `41-5A` as a range and `AA` as a range of one code point. -/
def readRange (text : List Char) : Nat × Nat :=
  let first := hexNumber (text.takeWhile (· != '-'))
  match text.dropWhile (· != '-') with
  | _ :: last => (first, hexNumber last)
  | [] => (first, first)

/-- Cuts at blanks and line ends, which may repeat. -/
def words (text : List Char) : List (List Char) :=
  (text.splitBy fun a b => !a.isWhitespace && !b.isWhitespace).filter fun w =>
    !w.all Char.isWhitespace

/-- Reads the notation of the tables: hexadecimal ranges divided by blanks. -/
def ofText (text : String) : CodeSet := ofRanges ((words text.toList).map readRange)

end CodeSet

/-- Looks a name up in a table of written sets. -/
def tableSet? (table : List (String × String)) (name : String) : Option CodeSet :=
  (table.lookup name).map CodeSet.ofText

end ImportSurvey.Unicode
