import ImportSurvey.Pattern.Flags

namespace ImportSurvey.Pattern

open Unicode (CodeSet isWhiteSpace)

/-- How deeply a pattern may nest. -/
def nestingLimit : Nat := 250

/-- The greatest repetition count that can be written. -/
def countLimit : Nat := 0xFFFFFFFF

/-- Drops blanks and comments, which run from `#` to the end of the line. -/
def skipBlanks (inComment : Bool) : List Char → List Char
  | [] => []
  | c :: rest =>
    if inComment then skipBlanks (c != '\n') rest
    else if isWhiteSpace c then skipBlanks false rest
    else if c == '#' then skipBlanks true rest
    else c :: rest

/-- Drops what does not count under the flags. -/
def skip (f : Flags) (text : List Char) : List Char :=
  if f.spaced then skipBlanks false text else text

/-- The next character that counts. A `#` is passed over, what follows it is not. -/
def peek? (f : Flags) (text : List Char) : Option Char :=
  if f.spaced then
    let ahead := match text.dropWhile isWhiteSpace with
      | '#' :: rest => rest.dropWhile isWhiteSpace
      | rest => rest
    ahead.head?.or text.head?
  else text.head?

/-- What an escape or a plain character stands for. -/
inductive Atom where
  | char (c : Char) (fromByte : Bool)
  | set (s : CodeSet)
  | anchor (condition : Anchor)
  | dot

/-- Characters that have a meaning of their own in patterns. -/
def isMeta (c : Char) : Bool := "\\.+*?()|[]\x7b\x7d^$#&-~".toList.contains c

/-- Characters that stand for themselves after a backslash: all of ASCII but letters, digits and
the angle brackets. -/
def isEscapable (c : Char) : Bool :=
  isMeta c || (c.toNat < 0x80 && !c.isAlphanum && c != '<' && c != '>')

def isHexDigit (c : Char) : Bool :=
  c.isDigit || ('a' ≤ c && c ≤ 'f') || ('A' ≤ c && c ≤ 'F')

def hexValue (digits : List Char) : Nat := CodeSet.hexNumber (digits.map Char.toUpper)

def charOfCode? (code : Nat) : Option Char :=
  if h : code.isValidChar then some (Char.ofNatAux code h) else none

/-- Takes `count` hexadecimal digits. -/
def takeHex? (f : Flags) : Nat → List Char → Option (List Char × List Char)
  | 0, text => some ([], text)
  | n + 1, c :: rest =>
    if isHexDigit c then (takeHex? f n (skip f rest)).map fun (ds, r) => (c :: ds, r) else none
  | _ + 1, [] => none

/-- Takes what stands up to the closing brace, blanks left out. -/
def takeBraced? (f : Flags) : Nat → List Char → Option (List Char × List Char)
  | 0, _ => none
  | n + 1, text =>
    match skip f text with
    | [] => none
    | '}' :: rest => some ([], rest)
    | c :: rest => (takeBraced? f n rest).map fun (cs, r) => (c :: cs, r)

/-- Reads a character by its code, after `x`, `u` or `U`. -/
def readCode? (f : Flags) (letter : Char) (text : List Char) : Option (Atom × List Char) :=
  match skip f text with
  | '{' :: rest => do
    let (digits, rest) ← takeBraced? f (rest.length + 1) rest
    if digits.isEmpty || !digits.all isHexDigit then none
    else return (.char (← charOfCode? (hexValue digits)) false, skip f rest)
  | text => do
    let (digits, rest) ← takeHex? f (if letter == 'x' then 2 else if letter == 'u' then 4 else 8) text
    return (.char (← charOfCode? (hexValue digits)) (letter == 'x'), rest)

/-- Cuts a text at the first occurrence of a mark. -/
def cutAt? (mark : List Char) : List Char → Option (List Char × List Char)
  | [] => none
  | c :: rest =>
    if mark.isPrefixOf (c :: rest) then some ([], (c :: rest).drop mark.length)
    else (cutAt? mark rest).map fun (before, after) => (c :: before, after)

/-- The set named by a property: a single name, or a name and a value divided by `!=`, `:` or `=`,
which all mean the same here. -/
def propertySet? (text : List Char) : Option CodeSet :=
  match (cutAt? "!=".toList text).or ((cutAt? [':'] text).or (cutAt? ['='] text)) with
  | some (name, value) => Unicode.valueSet? name value
  | none => Unicode.namedSet? text

/-- Reads a property, after `p` or `P`. -/
def readProperty? (f : Flags) (negated : Bool) (text : List Char) : Option (Atom × List Char) := do
  let (name, rest) ← match skip f text with
    | [] => none
    | '{' :: rest => takeBraced? f (rest.length + 1) rest
    | c :: rest => some ([c], skip f rest)
  if f.unicode then
    return (.set (← f.finishClass? negated (← propertySet? name)), rest)
  else none

/-- Reads the name of a word anchor, after `\b` and an opening brace. Outside `some`, the text is
malformed; inside, nothing means that the brace belongs to a repetition. -/
def readWordAnchor? (f : Flags) (text : List Char) : Option (Option (Anchor × List Char)) :=
  let inName : Char → Bool := fun c => c.isAlpha || c == '-'
  match skip f text with
  | [] => none
  | c :: _ =>
    if inName c then do
      let (name, rest) ← takeBraced? f (text.length + 1) text
      match String.ofList name with
      | "start" => some (some (.wordStart !f.unicode, rest))
      | "end" => some (some (.wordEnd !f.unicode, rest))
      | "start-half" => some (some (.wordStartHalf !f.unicode, rest))
      | "end-half" => some (some (.wordEndHalf !f.unicode, rest))
      | _ => none
    else some none

/-- Reads an escape, after the backslash. -/
def readEscape? (f : Flags) : List Char → Option (Atom × List Char)
  | [] => none
  | c :: rest =>
    if c == 'x' || c == 'u' || c == 'U' then readCode? f c rest
    else if c == 'p' || c == 'P' then readProperty? f (c == 'P') rest
    else if c == 'd' || c == 's' || c == 'w' then (f.shortClass? c false).map fun s => (.set s, rest)
    else if c == 'D' || c == 'S' || c == 'W' then
      (f.shortClass? c.toLower true).map fun s => (.set s, rest)
    else if isEscapable c then some (.char c false, rest)
    else match c with
      | 'a' => some (.char '\x07' false, rest)
      | 'f' => some (.char '\x0c' false, rest)
      | 't' => some (.char '\t' false, rest)
      | 'n' => some (.char '\n' false, rest)
      | 'r' => some (.char '\r' false, rest)
      | 'v' => some (.char '\x0b' false, rest)
      | 'A' => some (.anchor .textStart, rest)
      | 'z' => some (.anchor .textEnd, rest)
      | 'B' => some (.anchor (.noWordEdge !f.unicode), rest)
      | '<' => some (.anchor (.wordStart !f.unicode), rest)
      | '>' => some (.anchor (.wordEnd !f.unicode), rest)
      | 'b' =>
        match rest with
        | '{' :: inner =>
          match readWordAnchor? f inner with
          | none => none
          | some (some (anchor, rest)) => some (.anchor anchor, rest)
          | some none => some (.anchor (.wordEdge !f.unicode), rest)
        | _ => some (.anchor (.wordEdge !f.unicode), rest)
      | _ => none

inductive ClassOp where
  | inter
  | diff
  | symmDiff

def ClassOp.apply : ClassOp → CodeSet → CodeSet → CodeSet
  | .inter, s, t => s.inter t
  | .diff, s, t => s.diff t
  | .symmDiff, s, t => s.symmDiff t

/-- A set with the depth of the nesting that wrote it. -/
structure Nested where
  set : CodeSet
  depth : Nat

/-- An open bracket: the items read since the last operator, and the operation that waits for them
as its right side. -/
structure Bracket where
  negated : Bool
  pending : Option (ClassOp × Nested) := none
  items : CodeSet := .empty
  count : Nat := 0
  depth : Nat := 0

namespace Bracket

def add (b : Bracket) (item : Nested) : Bracket :=
  { b with items := b.items.union item.set, count := b.count + 1, depth := max b.depth item.depth }

def addSet (b : Bracket) (s : CodeSet) : Bracket := b.add ⟨s, 0⟩

/-- The set read so far. All operators bind alike and to the left; both sides of one are closed
under case first. -/
def value (f : Flags) (b : Bracket) : Nested :=
  let operand : Nested := ⟨b.items, if b.count ≤ 1 then b.depth else b.depth + 1⟩
  match b.pending with
  | none => operand
  | some (op, left) =>
    ⟨op.apply (f.fold left.set) (f.fold operand.set), max left.depth operand.depth + 1⟩

/-- Meets an operator. -/
def operate (f : Flags) (b : Bracket) (op : ClassOp) : Bracket :=
  { negated := b.negated, pending := some (op, b.value f) }

def close? (f : Flags) (b : Bracket) : Option Nested := do
  let inner := b.value f
  return ⟨← f.finishClass? b.negated inner.set, inner.depth + 1⟩

end Bracket

/-- Takes the hyphens that stand at the start of a bracket for themselves. -/
def leadingHyphens (f : Flags) : Nat → Bracket → List Char → Bracket × List Char
  | 0, b, text => (b, text)
  | n + 1, b, text =>
    match text with
    | '-' :: rest => leadingHyphens f n (b.addSet (.single '-'.toNat)) (skip f rest)
    | _ => (b, text)

/-- Opens a bracket: a caret negates, and a closing bracket that comes first is a member. -/
def openBracket (f : Flags) (text : List Char) : Bracket × List Char :=
  let text := skip f text
  let (negated, text) := match text with
    | '^' :: rest => (true, skip f rest)
    | _ => (false, text)
  let (b, text) := leadingHyphens f text.length { negated } text
  match text with
  | ']' :: rest =>
    if b.count = 0 then (b.addSet (.single ']'.toNat), skip f rest) else (b, text)
  | _ => (b, text)

/-- Reads the rest of `[:name:]`, after its opening bracket. -/
def asciiItem? (f : Flags) (text : List Char) : Option (Option CodeSet × List Char) :=
  match text with
  | ':' :: rest =>
    let (negated, rest) := match rest with
      | '^' :: r => (true, r)
      | r => (false, r)
    match rest.dropWhile (· != ':') with
    | ':' :: ']' :: after =>
      (Flags.asciiClass? (String.ofList (rest.takeWhile (· != ':')))).map fun ranges =>
        (f.finishClass? negated (.ofRanges ranges), after)
    | _ => none
  | _ => none

def readItem? (f : Flags) : List Char → Option (Atom × List Char)
  | [] => none
  | '\\' :: rest => readEscape? f rest
  | c :: rest => some (.char c false, rest)

/-- Reads a member of a class, or a range of members. -/
def readMember? (f : Flags) (text : List Char) : Option (CodeSet × List Char) := do
  let (first, rest) ← readItem? f text
  let single : Option (CodeSet × List Char) := match first with
    | .char c _ => (f.member? c).map fun code => (.single code, rest)
    | .set s => some (s, rest)
    | _ => none
  match skip f rest with
  | [] => none
  | '-' :: after =>
    if peek? f after == some ']' || peek? f after == some '-' then single
    else
      let (last, rest) ← readItem? f (skip f after)
      match first, last with
      | .char a _, .char b _ =>
        if a ≤ b then return (.range (← f.member? a) (← f.member? b), rest) else none
      | _, _ => none
  | _ => single

/-- Reads a class, after its opening bracket has been taken. `outer` holds the brackets around the
current one; every turn takes a character, so the text's length bounds the turns. -/
def readClass? (f : Flags) :
    Nat → Bracket → List Bracket → List Char → Option (Nested × List Char)
  | 0, _, _, _ => none
  | n + 1, b, outer, text =>
    match skip f text with
    | [] => none
    | '[' :: rest =>
      match asciiItem? f rest with
      | some (some s, after) => readClass? f n (b.addSet s) outer after
      | some (none, _) => none
      | none =>
        let (inner, after) := openBracket f rest
        readClass? f n inner (b :: outer) after
    | ']' :: rest =>
      match b.close? f, outer with
      | none, _ => none
      | some whole, [] => some (whole, rest)
      | some item, around :: outer => readClass? f n (around.add item) outer rest
    | '&' :: '&' :: rest => readClass? f n (b.operate f .inter) outer rest
    | '-' :: '-' :: rest => readClass? f n (b.operate f .diff) outer rest
    | '~' :: '~' :: rest => readClass? f n (b.operate f .symmDiff) outer rest
    | text =>
      match readMember? f text with
      | none => none
      | some (s, rest) => readClass? f n (b.addSet s) outer rest

/-- A part of a sequence: its meaning, its depth, and whether it only sets flags. -/
structure Part where
  expr : Expr
  depth : Nat
  setsFlags : Bool := false

/-- An open group: what stood before it, the flags to go back to, and its number if it captures. -/
structure OpenGroup where
  parts : List Part
  choices : List Part
  flags : Flags
  index : Option Nat

/-- The state of the reader. The parts of the current sequence and the earlier alternatives of the
current group are kept latest first. -/
structure State where
  flags : Flags := {}
  parts : List Part := []
  choices : List Part := []
  outer : List OpenGroup := []
  groups : Nat := 0
  names : List (List Char) := []

/-- The current sequence as one part. -/
def sequencePart : List Part → Part
  | [] => ⟨.empty, 0, false⟩
  | [part] => part
  | last :: earlier =>
    { expr := .sequence ((last :: earlier).reverse.map (·.expr))
      depth := earlier.foldl (fun d p => max d p.depth) last.depth + 1 }

/-- The alternatives of the current group as one part. -/
def choicePart (choices : List Part) (last : Part) : Part :=
  match choices.reverse with
  | [] => last
  | first :: later =>
    { expr := .choice first.expr (later.map (·.expr) ++ [last.expr])
      depth := choices.foldl (fun d p => max d p.depth) last.depth + 1 }

def State.body (s : State) : Part := choicePart s.choices (sequencePart s.parts)

def State.push (s : State) (expr : Expr) (depth : Nat) : State :=
  { s with parts := { expr, depth } :: s.parts }

/-- Reads flag letters up to `:` or `)`. No letter may come twice, and a hyphen, which may come
once, turns the flags after it off. -/
def readFlags? (seen : List Char) (on : Bool) :
    Flags → List Char → Option (Flags × List Char × List Char)
  | _, [] => none
  | f, c :: rest =>
    if c == ':' || c == ')' then
      if seen.head? == some '-' then none else some (f, seen, c :: rest)
    else if seen.contains c then none
    else if c == '-' then readFlags? (c :: seen) false f rest
    else match f.set? c on with
      | none => none
      | some f => readFlags? (c :: seen) on f rest

/-- A name starts with a letter or an underscore and goes on with these, numbers, dots and square
brackets. -/
def isName : List Char → Bool
  | [] => false
  | c :: rest => (c == '_' || Unicode.isAlphabetic c) && rest.all fun d =>
      d == '_' || d == '.' || d == '[' || d == ']' || Unicode.isAlphanumeric d

def State.openGroup (s : State) (index : Option Nat) (inner : Flags) : State :=
  { s with
    flags := inner, parts := [], choices := []
    outer := ⟨s.parts, s.choices, s.flags, index⟩ :: s.outer
    groups := s.groups + (if index.isSome then 1 else 0) }

def readNamedGroup? (s : State) (text : List Char) : Option (State × List Char) := do
  let (name, rest) ← cutAt? ['>'] text
  if isName name && !s.names.contains name then
    return ({ s.openGroup (some (s.groups + 1)) s.flags with names := name :: s.names }, rest)
  else none

/-- Reads the start of a group, after its parenthesis. Text that looks at what is around a place
is refused. -/
def readGroup? (s : State) (text : List Char) : Option (State × List Char) :=
  match skip s.flags text with
  | '?' :: 'P' :: '<' :: rest => readNamedGroup? s rest
  | '?' :: '<' :: rest => readNamedGroup? s rest
  | '?' :: rest => do
    let (flags, letters, rest) ← readFlags? [] true s.flags rest
    match rest with
    | ':' :: rest => some (s.openGroup none flags, rest)
    | _ :: rest =>
      if letters.isEmpty then none
      else some ({ s with flags, parts := ⟨.empty, 0, true⟩ :: s.parts }, rest)
    | [] => none
  | text => some (s.openGroup (some (s.groups + 1)) s.flags, text)

def State.closeGroup? (s : State) : Option State :=
  match s.outer with
  | [] => none
  | g :: outer =>
    let body := s.body
    let expr := match g.index with
      | some index => .group index body.expr
      | none => body.expr
    some { s with
      flags := g.flags, choices := g.choices, outer
      parts := ⟨expr, body.depth + 1, false⟩ :: g.parts }

/-- Repeats the last part, which must be there and be more than a setting of flags. -/
def State.repeat? (s : State) (least : Nat) (most : Option Nat) (isLazy : Bool) : Option State :=
  match s.parts with
  | [] => none
  | part :: earlier =>
    if part.setsFlags then none
    else some { s with parts :=
      ⟨.repeated least most (isLazy == s.flags.swapGreed) part.expr, part.depth + 1, false⟩
        :: earlier }

/-- Takes a question mark that makes a repetition lazy. -/
def takeLazy : List Char → Bool × List Char
  | '?' :: rest => (true, rest)
  | text => (false, text)

def takeDigits (f : Flags) : Nat → List Char → List Char × List Char
  | 0, text => ([], text)
  | n + 1, text =>
    match text with
    | c :: rest =>
      if c.isDigit then
        let (ds, r) := takeDigits f n (skip f rest)
        (c :: ds, r)
      else ([], text)
    | [] => ([], [])

/-- Reads a count, with blanks around it; nothing if there is no digit. -/
def readCount? (f : Flags) (text : List Char) : Option (Option Nat × List Char) :=
  let (digits, rest) := takeDigits f text.length (text.dropWhile isWhiteSpace)
  let rest := skip f (rest.dropWhile isWhiteSpace)
  if digits.isEmpty then some (none, rest)
  else
    let count := digits.foldl (fun n d => 10 * n + (d.toNat - '0'.toNat)) 0
    if count ≤ countLimit then some (some count, rest) else none

/-- Reads a counted repetition, after its opening brace: least and most number of turns. -/
def readBounds? (f : Flags) (text : List Char) :
    Option ((Nat × Option Nat) × List Char) := do
  let (least, rest) ← readCount? f (skip f text)
  let least ← least
  match rest with
  | '}' :: rest => return ((least, some least), rest)
  | ',' :: rest =>
    match skip f rest with
    | '}' :: rest => return ((least, none), rest)
    | rest =>
      let (most, rest) ← readCount? f rest
      let most ← most
      match rest with
      | '}' :: rest => if least ≤ most then return ((least, some most), rest) else none
      | _ => none
  | _ => none

/-- Adds what a character or an escape stands for. -/
def State.addAtom? (s : State) : Atom → Option State
  | .char c fromByte => do return s.push (← s.flags.literal? c fromByte) 0
  | .set set => some (s.push (.oneOf set) 0)
  | .anchor a => some (s.push (.anchor a) 0)
  | .dot => do return s.push (← s.flags.dot?) 0

/-- Reads one construct that starts with the character `c`. -/
def readStep? (s : State) (c : Char) (rest : List Char) : Option (State × List Char) :=
  match c with
  | '(' => readGroup? s rest
  | ')' => s.closeGroup?.map (·, rest)
  | '|' =>
    some ({ s with parts := [], choices := sequencePart s.parts :: s.choices }, rest)
  | '[' => do
    let (b, rest) := openBracket s.flags rest
    let (whole, rest) ← readClass? s.flags (rest.length + 1) b [] rest
    return (s.push (.oneOf whole.set) whole.depth, rest)
  | '?' => let (isLazy, rest) := takeLazy rest; (s.repeat? 0 (some 1) isLazy).map (·, rest)
  | '*' => let (isLazy, rest) := takeLazy rest; (s.repeat? 0 none isLazy).map (·, rest)
  | '+' => let (isLazy, rest) := takeLazy rest; (s.repeat? 1 none isLazy).map (·, rest)
  | '{' => do
    let ((least, most), rest) ← readBounds? s.flags rest
    let (isLazy, rest) := takeLazy (skip s.flags rest)
    return (← s.repeat? least most isLazy, rest)
  | '\\' => do
    let (atom, rest) ← readEscape? s.flags rest
    return (← s.addAtom? atom, rest)
  | '.' => (s.addAtom? .dot).map (·, rest)
  | '^' => (s.addAtom? (.anchor s.flags.lineStart)).map (·, rest)
  | '$' => (s.addAtom? (.anchor s.flags.lineEnd)).map (·, rest)
  | c => (s.addAtom? (.char c false)).map (·, rest)

/-- Reads constructs to the end of the text. Each takes at least one character, so the text's
length bounds their number. -/
def readAll? : Nat → State → List Char → Option State
  | n, s, text =>
    match skip s.flags text, n with
    | [], _ => some s
    | _ :: _, 0 => none
    | c :: rest, n + 1 =>
      match readStep? s c rest with
      | none => none
      | some (s, rest) => readAll? n s rest

/-- The expression that a pattern text means, if it is well-formed. -/
def Expr.ofText? (text : String) : Option Expr := do
  let s ← readAll? text.length {} text.toList
  let body := s.body
  if s.outer.isEmpty && body.depth ≤ nestingLimit then return body.expr else none

end ImportSurvey.Pattern
