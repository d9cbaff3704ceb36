import ImportSurvey.Pattern.Program
import ImportSurvey.Unicode.Property

namespace ImportSurvey.Pattern

/-- The characters that count as parts of words, for the two forms of word conditions. -/
def isWord (ascii : Bool) (c : Char) : Bool :=
  if ascii then c.isAlphanum || c == '_' else Unicode.wordCharacters.containsChar c

/-- Whether a condition holds between the characters before and after a place. -/
def Anchor.holds (condition : Anchor) (before after : Option Char) : Bool :=
  let word (ascii : Bool) (c : Option Char) : Bool := c.any (isWord ascii)
  match condition with
  | .textStart => before.isNone
  | .textEnd => after.isNone
  | .lineStart => before.all (· == '\n')
  | .lineEnd => after.all (· == '\n')
  | .crlfLineStart =>
    before.all fun c => c == '\n' || (c == '\r' && after != some '\n')
  | .crlfLineEnd =>
    after.all fun c => c == '\r' || (c == '\n' && before != some '\r')
  | .wordEdge ascii => word ascii before != word ascii after
  | .noWordEdge ascii => word ascii before == word ascii after
  | .wordStart ascii => !word ascii before && word ascii after
  | .wordEnd ascii => word ascii before && !word ascii after
  | .wordStartHalf ascii => !word ascii before
  | .wordEndHalf ascii => !word ascii after

/-- Where a match, and the first group in it, start and end. -/
structure Match where
  start : Nat
  stop : Nat
  group : Option (Nat × Nat)

/-- A place in the program, with what has been noted on the way there. -/
structure Thread where
  pc : Nat
  start : Nat
  groupStart : Option Nat := none
  groupEnd : Option Nat := none

/-- Where the searched text stands: the place, and the characters on either side. -/
structure Place where
  index : Nat
  before : Option Char
  after : Option Char

/-- Follows threads through the instructions that take no character. `todo` holds the threads to
follow, preferred ones first, and `seen` the place at which each instruction was last entered, plus
one. Each instruction is entered once and leaves at most two threads, which bounds the turns. -/
def follow (p : Program) (place : Place) :
    Nat → List Thread → Array Nat → Array Thread → Array Nat × Array Thread
  | 0, _, seen, ready => (seen, ready)
  | _ + 1, [], seen, ready => (seen, ready)
  | n + 1, t :: todo, seen, ready =>
    if seen[t.pc]? == some (place.index + 1) then follow p place n todo seen ready
    else
      let seen := seen.setIfInBounds t.pc (place.index + 1)
      match p.instrs[t.pc]? with
      | none => follow p place n todo seen ready
      | some .accept => follow p place n todo seen (ready.push t)
      | some (.take _ _) => follow p place n todo seen (ready.push t)
      | some (.check condition next) =>
        if condition.holds place.before place.after then
          follow p place n ({ t with pc := next } :: todo) seen ready
        else follow p place n todo seen ready
      | some (.fork first second) =>
        follow p place n ({ t with pc := first } :: { t with pc := second } :: todo) seen ready
      | some (.mark group isEnd next) =>
        let t := if group != 1 then t
          else if isEnd then { t with groupEnd := some place.index }
          else { t with groupStart := some place.index }
        follow p place n ({ t with pc := next } :: todo) seen ready

/-- Moves the ready threads over a character, up to the first that has found a match: the threads
after it are less preferred and are dropped. -/
def advance (p : Program) (place : Place) :
    List Thread → List Thread → List Thread × Option Match
  | [], moved => (moved.reverse, none)
  | t :: rest, moved =>
    match p.instrs[t.pc]? with
    | some .accept =>
      (moved.reverse, some ⟨t.start, place.index, t.groupStart.bind fun a => t.groupEnd.map (a, ·)⟩)
    | some (.take set next) =>
      if place.after.any set.containsChar then
        advance p place rest ({ t with pc := next } :: moved)
      else advance p place rest moved
    | _ => advance p place rest moved

/-- Searches on from a place. `threads` are the threads alive there, and `found` the best match so
far; as long as there is none, a new thread starts at every place. -/
def searchFrom (p : Program) :
    List Char → Option Char → Nat → List Thread → Array Nat → Option Match → Option Match
  | text, before, index, threads, seen, found =>
    let place : Place := ⟨index, before, text.head?⟩
    let todo := if found.isNone then threads ++ [⟨p.start, index, none, none⟩] else threads
    if todo.isEmpty then found
    else
      let (seen, ready) := follow p place (2 * p.instrs.size + todo.length + 1) todo seen #[]
      let (moved, hit) := advance p place ready.toList []
      let found := hit.or found
      match text with
      | [] => found
      | c :: rest => searchFrom p rest (some c) (index + 1) moved seen found

/-- The first match in `text`, which starts at `index` of the whole text after the character
`before`. -/
def Program.search? (p : Program) (text : List Char) (before : Option Char) (index : Nat) :
    Option Match :=
  searchFrom p text before index [] (Array.replicate p.instrs.size 0) none

/-- Goes `n` characters forward. -/
def forward : Nat → List Char → Option Char → List Char × Option Char
  | 0, text, before => (text, before)
  | _, [], before => ([], before)
  | n + 1, c :: rest, _ => forward n rest (some c)

/-- The matches after a place, in order and without overlap. An empty match where the last match
ended does not count: the search goes on one character further. Every match leads further on, so
the text's length bounds their number. -/
def matchesFrom (p : Program) :
    Nat → List Char → Option Char → Nat → Option Nat → List Match
  | 0, _, _, _, _ => []
  | n + 1, text, before, index, lastEnd =>
    match p.search? text before index with
    | none => []
    | some first =>
      let next : Option Match :=
        if first.start == first.stop && lastEnd == some first.stop then
          match text with
          | [] => none
          | c :: rest => p.search? rest (some c) (index + 1)
        else some first
      match next with
      | none => []
      | some m =>
        let (text, before) := forward (m.stop - index) text before
        m :: matchesFrom p n text before m.stop (some m.stop)

/-- Every match in a text, in order. -/
def Program.matches (p : Program) (text : List Char) : List Match :=
  matchesFrom p (text.length + 2) text none 0 none

end ImportSurvey.Pattern
