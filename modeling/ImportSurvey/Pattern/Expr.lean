import ImportSurvey.Unicode.CodeSet

namespace ImportSurvey.Pattern

open Unicode (CodeSet)

/-- A condition on a place between two characters. The word conditions come in a form for all
scripts and a form for ASCII. -/
inductive Anchor where
  | textStart
  | textEnd
  /-- After a line feed or at the start. -/
  | lineStart
  /-- Before a line feed or at the end. -/
  | lineEnd
  /-- As `lineStart`, where a carriage return ends a line too, alone or before a line feed. -/
  | crlfLineStart
  | crlfLineEnd
  | wordEdge (ascii : Bool)
  | noWordEdge (ascii : Bool)
  | wordStart (ascii : Bool)
  | wordEnd (ascii : Bool)
  /-- No word character before. -/
  | wordStartHalf (ascii : Bool)
  /-- No word character after. -/
  | wordEndHalf (ascii : Bool)
deriving DecidableEq, Repr

inductive Expr where
  | empty
  /-- One character of a set. -/
  | oneOf (set : CodeSet)
  | anchor (condition : Anchor)
  | seq (first second : Expr)
  /-- The first alternative is preferred. -/
  | either (first second : Expr)
  /-- At least `least` and, if given, at most `most` times; as often as possible if `greedy`. -/
  | times (least : Nat) (most : Option Nat) (greedy : Bool) (body : Expr)
  /-- Captures what the body matches as group `index`. -/
  | group (index : Nat) (body : Expr)
deriving DecidableEq, Repr

/-- The length of the part that two lists have in common at their start. -/
def commonStart {α : Type} [DecidableEq α] : List α → List α → Nat
  | a :: as, b :: bs => if a = b then commonStart as bs + 1 else 0
  | _, _ => 0

namespace Expr

/-- Whether the expression can match only the empty text. An expression that cannot match at all
is not one of these. -/
def matchesOnlyEmpty : Expr → Bool
  | .empty => true
  | .oneOf _ => false
  | .anchor _ => true
  | .seq a b => a.matchesOnlyEmpty && b.matchesOnlyEmpty
  | .either a b => a.matchesOnlyEmpty && b.matchesOnlyEmpty
  | .times _ _ _ body => body.matchesOnlyEmpty
  | .group _ body => body.matchesOnlyEmpty

/-- Repetition, simplified: of a body that matches only the empty text one turn is enough, no
turn at all is the empty expression, and exactly one turn is the body. -/
def repeated (least : Nat) (most : Option Nat) (greedy : Bool) (body : Expr) : Expr :=
  let single := body.matchesOnlyEmpty
  let least := if single then min least 1 else least
  let most := if single then some (min (most.getD 1) 1) else most
  if least = 0 && most == some 0 then .empty
  else if least = 1 && most == some 1 then body
  else .times least most greedy body

/-- The length of the shortest match, told only if every part of the expression can match. -/
def leastLength? : Expr → Option Nat
  | .empty => some 0
  | .oneOf set => if set.isEmpty then none else some 1
  | .anchor _ => some 0
  | .seq a b => a.leastLength?.bind fun m => b.leastLength?.map (m + ·)
  | .either a b => a.leastLength?.bind fun m => b.leastLength?.map (min m ·)
  | .times least _ _ body => body.leastLength?.map (least * ·)
  | .group _ body => body.leastLength?

/-- Whether every match is known to take a character. -/
def takesCharacter (e : Expr) : Bool := e.leastLength?.any (0 < ·)

/-- The parts of a sequence, in order. -/
def parts : Expr → List Expr
  | .empty => []
  | .seq a b => a.parts ++ b.parts
  | e => [e]

/-- The sequence with the given parts. -/
def ofParts : List Expr → Expr
  | [] => .empty
  | [e] => e
  | e :: rest => .seq e (ofParts rest)

/-- Expressions one after another. A sequence among them is opened, so that sequences with the
same parts are the same expression. -/
def sequence (es : List Expr) : Expr := ofParts (es.flatMap parts)

/-- Whether the expression is one certain character. -/
def isCharacter : Expr → Bool
  | .oneOf set => set.isSingle
  | _ => false

/-- The parts of a sequence, with neighbouring characters taken together as one piece. -/
def pieces (e : Expr) : List (List Expr) :=
  e.parts.splitBy fun a b => a.isCharacter && b.isCharacter

/-- The alternatives of a choice, the preferred one first. -/
def alternatives : Expr → List Expr
  | .either a b => a.alternatives ++ b.alternatives
  | e => [e]

/-- The choice with the given alternatives. -/
def ofAlternatives : Expr → List Expr → Expr
  | e, [] => e
  | e, next :: rest => .either e (ofAlternatives next rest)

/-- The set that the expression takes one character of. -/
def set? : Expr → Option CodeSet
  | .oneOf set => some set
  | _ => none

/-- Expressions to choose from, as one set if each takes one character. -/
def anyOf (first : Expr) (rest : List Expr) : Expr :=
  let es := (first :: rest).flatMap alternatives
  match es.mapM set? with
  | some sets => .oneOf (.ofRanges (sets.flatMap (·.ranges.toList)))
  | none => ofAlternatives (es.headD first) es.tail

/-- Expressions to choose from. Those that begin with the same pieces share them, so that the
preferred way through the beginning counts for all; an expression of a single piece has no
beginning to share. -/
def choice (first : Expr) (rest : List Expr) : Expr :=
  let head := first.pieces
  let others := rest.map pieces
  let shared :=
    if (head :: others).all (1 < ·.length) then
      others.foldl (fun n ps => min n (commonStart head ps)) head.length
    else 0
  if shared = 0 then anyOf first rest
  else
    let remainder (ps : List (List Expr)) : Expr := ofParts (ps.drop shared).flatten
    sequence ((head.take shared).flatten ++ [anyOf (remainder head) (others.map remainder)])

/-- The number of capture groups, told by the index of the last one that is left: groups in front
of it count even where a repetition without turns has dropped them. -/
def groupCount : Expr → Nat
  | .empty | .oneOf _ | .anchor _ => 0
  | .seq a b | .either a b => max a.groupCount b.groupCount
  | .times _ _ _ body => body.groupCount
  | .group index body => max index body.groupCount

end Expr

end ImportSurvey.Pattern
