import ImportSurvey.Pattern.Expr

namespace ImportSurvey.Pattern

open Unicode (CodeSet)

inductive Instr where
  /-- The search has found a match. -/
  | accept
  /-- Takes one character of the set. -/
  | take (set : CodeSet) (next : Nat)
  /-- Goes on if the condition holds at the current place. -/
  | check (condition : Anchor) (next : Nat)
  /-- Goes on at both places, preferring the first. -/
  | fork (first second : Nat)
  /-- Notes the current place as the start or the end of a group. -/
  | mark (group : Nat) (isEnd : Bool) (next : Nat)

/-- Instructions by number, and the one to start from. -/
structure Program where
  instrs : Array Instr
  start : Nat

namespace Program

/-- Puts an instruction in front. -/
def lead (p : Program) (instr : Nat → Instr) : Program :=
  ⟨p.instrs.push (instr p.start), p.instrs.size⟩

/-- A choice between two entries, the first preferred if `greedy`. -/
def forkTo (greedy : Bool) (body exit : Nat) : Instr :=
  if greedy then .fork body exit else .fork exit body

/-- Puts `n` copies of a body in front. -/
def copies (body : Program → Program) : Nat → Program → Program
  | 0, p => p
  | n + 1, p => copies body n (body p)

/-- Puts up to `n` copies of a body in front, each of which may be the last: from every one there
is a way to `exit`. -/
def optionals (body : Program → Program) (greedy : Bool) (exit : Nat) : Nat → Program → Program
  | 0, p => p
  | n + 1, p =>
    let inner := body (optionals body greedy exit n p)
    ⟨inner.instrs.push (forkTo greedy inner.start exit), inner.instrs.size⟩

/-- Puts a loop in front, which starts with its body. Behind the body stands a fork, whose number
is given too: back into the body, or on. -/
def loop (body : Program → Program) (greedy : Bool) (p : Program) : Program × Nat :=
  let back := p.instrs.size
  let looped := body ⟨p.instrs.push .accept, back⟩
  (⟨looped.instrs.setIfInBounds back (forkTo greedy looped.start p.start), looped.start⟩, back)

/-- Puts one or more copies of a body in front. -/
def oneOrMore (body : Program → Program) (greedy : Bool) (p : Program) : Program :=
  (loop body greedy p).1

/-- Puts any number of copies of a body in front. If each copy takes a character, the loop may
start with its fork. Otherwise the body is entered once before the way out is open, so that the
preferred way through it is found first. -/
def zeroOrMore (body : Program → Program) (takes greedy : Bool) (p : Program) : Program :=
  let (looped, back) := loop body greedy p
  if takes then ⟨looped.instrs, back⟩
  else ⟨looped.instrs.push (forkTo greedy looped.start p.start), looped.instrs.size⟩

/-- Puts an expression in front of a program. -/
def before : Expr → Program → Program
  | .empty, p => p
  | .oneOf set, p => p.lead (.take set)
  | .anchor condition, p => p.lead (.check condition)
  | .seq a b, p => before a (before b p)
  | .either a b, p =>
    let second := before b p
    let first := before a ⟨second.instrs, p.start⟩
    ⟨first.instrs.push (.fork first.start second.start), first.instrs.size⟩
  | .times least (some most) greedy body, p =>
    copies (before body) least (optionals (before body) greedy p.start (most - least) p)
  | .times 0 none greedy body, p => zeroOrMore (before body) body.takesCharacter greedy p
  | .times (least + 1) none greedy body, p =>
    copies (before body) least (oneOrMore (before body) greedy p)
  | .group index body, p =>
    (before body (p.lead (.mark index true))).lead (.mark index false)

/-- The program of an expression, built from its end, so that each instruction can name the ones it
leads to. -/
def ofExpr (e : Expr) : Program := before e ⟨#[.accept], 0⟩

end Program

end ImportSurvey.Pattern
