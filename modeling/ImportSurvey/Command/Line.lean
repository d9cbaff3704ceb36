import ImportSurvey.Command.Request
import ImportSurvey.Text.Cut

namespace ImportSurvey.CommandLine

/-- Why a command line is not carried out. -/
inductive Refusal where
  | unknownArgument
  | missingValue
  | badNumber
  | givenTwice
  | unneededValue
  | unknownCommand
deriving DecidableEq, Repr

def Refusal.text : Refusal → String
  | .unknownArgument => "unexpected argument"
  | .missingValue => "a value is required"
  | .badNumber => "a value is not a number"
  | .givenTwice => "an option was given twice"
  | .unneededValue => "an option takes no value"
  | .unknownCommand => "unrecognized command"

/-- What ends the reading of a command line. -/
inductive Stop where
  | help
  | version
  | refused (why : Refusal)
deriving DecidableEq, Repr

inductive Flag where
  | verbose
  | json
  | strict
  | excludeCrowded
  | noAliases
  | noMappings
  | bestEffort
deriving DecidableEq, Repr

/-- Options that can be given several times. -/
inductive ListOption where
  | language
  | extension
  | pattern
  | skip
  | exclude
  | aliasFolder
deriving DecidableEq, Repr

inductive NumberOption where
  | crowdedFrom
  | page
deriving DecidableEq, Repr

/-- What an option asks for. -/
inductive Meaning where
  | help
  | version
  | flag (f : Flag)
  | list (o : ListOption)
  | number (o : NumberOption)
deriving DecidableEq, Repr

structure OptionName where
  long : String
  short : Option Char
  meaning : Meaning
deriving DecidableEq, Repr

/-- What can be said at one level of a command line. -/
structure Level where
  options : List OptionName
  commands : List String
  takesPath : Bool

/-- What was said so far, the last one first. -/
structure Said where
  flags : List Flag
  lists : List (ListOption × String)
  numbers : List (NumberOption × Nat)
  path : Option String
deriving DecidableEq, Repr

def Said.nothing : Said := ⟨[], [], [], none⟩

/-- Something whose value is not yet checked, or not yet given. -/
inductive Pending where
  | list (o : ListOption) (value : Option String)
  | number (o : NumberOption) (value : Option String)
  | path (value : String)
deriving DecidableEq, Repr

/-- The state of reading a level. -/
structure State where
  said : Said
  pending : Option Pending
  /-- Whether the path has been given. -/
  pathGiven : Bool
  /-- Whether `--` has been met. -/
  onlyPaths : Bool

def State.start : State := ⟨.nothing, none, false, false⟩

abbrev Reading (α : Type) := Except Stop α

def refuse {α : Type} (why : Refusal) : Reading α := .error (.refused why)

/-- The greatest number that an option takes. -/
def maxNumber : Nat := 0xFFFFFFFFFFFFFFFF

/-- A number, perhaps with a plus sign in front. -/
def readNumber? (text : String) : Option Nat :=
  let digits := match text.toList with
    | '+' :: rest => rest
    | chars => chars
  if digits.isEmpty || !digits.all Char.isDigit then none
  else
    let n := digits.foldl (fun n c => n * 10 + (c.toNat - '0'.toNat)) 0
    if n ≤ maxNumber then some n else none

/-- Checks a value and adds it to what was said. -/
def Said.add (s : Said) : Pending → Reading Said
  | .list _ none => refuse .missingValue
  | .list o (some value) => .ok { s with lists := (o, value) :: s.lists }
  | .number _ none => refuse .missingValue
  | .number o (some value) =>
    if s.numbers.any (·.1 == o) then refuse .givenTwice
    else
      match readNumber? value with
      | some n => .ok { s with numbers := (o, n) :: s.numbers }
      | none => refuse .badNumber
  | .path value =>
    if value.isEmpty then refuse .missingValue else .ok { s with path := some value }

/-- Checks what is pending. -/
def State.settle (s : State) : Reading State :=
  match s.pending with
  | none => .ok s
  | some p => (s.said.add p).map fun said => { s with said, pending := none }

def State.addFlag (s : State) (f : Flag) : Reading State :=
  if s.said.flags.contains f then refuse .givenTwice
  else .ok { s with said := { s.said with flags := f :: s.said.flags } }

/-- Takes an option that has no value. -/
def State.takePlain (s : State) (m : Meaning) : Reading State := do
  let s ← s.settle
  match m with
  | .help => .error .help
  | .version => .error .version
  | .flag f => s.addFlag f
  | .list o => return { s with pending := some (.list o none) }
  | .number o => return { s with pending := some (.number o none) }

/-- The option with a value, unless it takes none. -/
def Meaning.withValue? (m : Meaning) (value : String) : Option Pending :=
  match m with
  | .list o => some (.list o (some value))
  | .number o => some (.number o (some value))
  | _ => none

/-- Takes an option with the value that is attached to it, which is complete. -/
def State.takeAttached (s : State) (p : Pending) : Reading State := do
  let s ← s.settle
  let said ← s.said.add p
  return { s with said }

def Level.long? (l : Level) (name : String) : Option Meaning :=
  (l.options.find? (·.long == name)).map (·.meaning)

def Level.short? (l : Level) (c : Char) : Option Meaning :=
  (l.options.find? (·.short == some c)).map (·.meaning)

/-- Takes a long option, given without the dashes in front. -/
def Level.takeLong (l : Level) (s : State) (text : List Char) : Reading State :=
  let (name, value) := match Text.cutFirst? '=' text with
    | some (name, value) => (name, some (String.ofList value))
    | none => (text, none)
  match l.long? (String.ofList name) with
  | none => refuse .unknownArgument
  | some m =>
    match value with
    | none => s.takePlain m
    | some value =>
      match m.withValue? value with
      | some p => s.takeAttached p
      | none => refuse .unneededValue

/-- The value attached to a short option; an equals sign in front of it does not count. -/
def attachedValue : List Char → String
  | '=' :: value => String.ofList value
  | value => String.ofList value

/-- Takes short options in a row. What follows one that takes a value is its value. -/
def Level.takeShorts (l : Level) (s : State) : List Char → Reading State
  | [] => .ok s
  | c :: rest =>
    match l.short? c with
    | none => refuse .unknownArgument
    | some m =>
      match rest, m.withValue? (attachedValue rest) with
      | _ :: _, some p => s.takeAttached p
      | _, _ => do l.takeShorts (← s.takePlain m) rest

/-- Gives a value to the option that waits for one. -/
def Pending.give? (p : Pending) (value : String) : Option Pending :=
  match p with
  | .list o none => some (.list o (some value))
  | .number o none => some (.number o (some value))
  | _ => none

/-- Takes an argument that is no option and no value of one. -/
def Level.takePath (l : Level) (s : State) (arg : String) : Reading State :=
  if l.takesPath && !s.pathGiven then do
    let s ← s.settle
    return { s with pending := some (.path arg), pathGiven := true }
  else if l.commands.isEmpty || (s.onlyPaths && l.commands.contains arg) then
    refuse .unknownArgument
  else refuse .unknownCommand

/-- Takes an argument that is not marked as an option. -/
def Level.takeWord (l : Level) (s : State) (arg : String) : Reading State :=
  match s.pending.bind (·.give? arg) with
  | some p => .ok { s with pending := some p }
  | none => l.takePath s arg

/-- Takes an argument. -/
def Level.take (l : Level) (s : State) (arg : String) : Reading State :=
  if s.onlyPaths then l.takePath s arg
  else
    match arg.toList with
    | ['-', '-'] => .ok { s with onlyPaths := true }
    | '-' :: '-' :: text => l.takeLong s text
    | '-' :: c :: text => l.takeShorts s (c :: text)
    | _ => l.takeWord s arg

/-- Reads a level up to its end, or up to the name of a command, which comes with the arguments
behind it. -/
def Level.read (l : Level) : State → List String → Reading (Said × Option (String × List String))
  | s, [] => s.settle.map fun s => (s.said, none)
  | s, arg :: rest =>
    if !s.onlyPaths && l.commands.contains arg then .ok (s.said, some (arg, rest))
    else do l.read (← l.take s arg) rest

/-- The option that asks for help, and the one for messages on the way. -/
def commonOptions : List OptionName :=
  [⟨"help", some 'h', .help⟩, ⟨"verbose", some 'v', .flag .verbose⟩]

/-- The commands; the last one explains the others. -/
def commandNames : List String := ["scan", "review", "suspicious", "help"]

/-- The level before the command. -/
def topLevel : Level :=
  ⟨⟨"version", some 'V', .version⟩ :: commonOptions, commandNames, false⟩

def scanOptions : List OptionName :=
  [⟨"lang", none, .list .language⟩, ⟨"ext", none, .list .extension⟩,
    ⟨"pattern", none, .list .pattern⟩, ⟨"skip", none, .list .skip⟩,
    ⟨"exclude", none, .list .exclude⟩, ⟨"exclude-suspicious", none, .flag .excludeCrowded⟩,
    ⟨"threshold", none, .number .crowdedFrom⟩, ⟨"alias", none, .list .aliasFolder⟩,
    ⟨"no-aliases", none, .flag .noAliases⟩, ⟨"no-tsconfig", none, .flag .noMappings⟩,
    ⟨"best-effort", none, .flag .bestEffort⟩]

def checkOptions : List OptionName :=
  [⟨"json", none, .flag .json⟩, ⟨"strict", none, .flag .strict⟩]

/-- The level of a command whose options are its own and those of a survey. -/
def commandLevel (own : List OptionName) : Level := ⟨own ++ scanOptions ++ commonOptions, [], true⟩

namespace Said

def texts (s : Said) (o : ListOption) : List String :=
  (s.lists.reverse.filter (·.1 == o)).map (·.2)

def number? (s : Said) (o : NumberOption) : Option Nat := s.numbers.lookup o

def has (s : Said) (f : Flag) : Bool := s.flags.contains f

/-- The options of the survey. -/
def options (s : Said) : ScanOptions :=
  { base := s.path.getD "."
    languages := s.texts .language
    extensions := s.texts .extension
    patterns := s.texts .pattern
    skip := s.texts .skip
    exclude := s.texts .exclude
    excludeCrowded := s.has .excludeCrowded
    crowdedFrom := s.number? .crowdedFrom
    aliases := s.texts .aliasFolder
    noAliases := s.has .noAliases
    noMappings := s.has .noMappings
    bestEffort := s.has .bestEffort }

end Said

/-- The explanation of the command line. -/
def helpLines : List String :=
  ["Usage: strata [-v] <COMMAND> [PATH] [OPTIONS]", "",
    "Commands:",
    "  scan        Print the tree, the imports of each file, and the mutual dependencies",
    "  review      Walk through the tree one directory per page",
    "  suspicious  List directories that look vendored or generated", "",
    "Options of every command:",
    "  --lang NAME, --ext EXT, --pattern REGEX    what is looked at",
    "  --skip NAME, --exclude DIR                 what is left out",
    "  --exclude-suspicious, --threshold N        what is left out by its size",
    "  --alias PREFIX=DIR, --no-aliases, --no-tsconfig, --best-effort",
    "Options of scan and suspicious: --json, --strict",
    "Option of review: -p, --page N"]

/-- What is printed for the version. -/
def versionText : String := "strata 0.3.0\n"

/-- Reads what follows the name of a command. -/
def readCommand (verbose : Bool) (own : List OptionName) (task : Said → Task)
    (args : List String) : Reading Request := do
  let (said, _) ← (commandLevel own).read .start args
  return ⟨verbose || said.has .verbose, some ⟨task said, said.options⟩⟩

/-- Explains one command, or all of them. -/
def explain (args : List String) : Stop :=
  match args with
  | [] => .help
  | [name] => if commandNames.contains name then .help else .refused .unknownCommand
  | _ => .refused .unknownCommand

/-- Reads a command line, without the name of the program. A value is checked only when the next
argument that is understood, or the end, shows that it is complete. -/
def read (args : List String) : Reading Request := do
  let (said, command) ← topLevel.read .start args
  let verbose := said.has .verbose
  match command with
  | none => return ⟨verbose, none⟩
  | some ("scan", rest) =>
    readCommand verbose checkOptions (fun s => .dump (s.has .json) (s.has .strict)) rest
  | some ("review", rest) =>
    readCommand verbose [⟨"page", some 'p', .number .page⟩]
      (fun s => .review ((s.number? .page).getD 1)) rest
  | some ("suspicious", rest) =>
    readCommand verbose checkOptions (fun s => .listCrowded (s.has .json) (s.has .strict)) rest
  | some (_, rest) => .error (explain rest)

end ImportSurvey.CommandLine
