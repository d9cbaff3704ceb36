import ImportSurvey.Command.Fault
import ImportSurvey.Command.Request
import ImportSurvey.Report.Crowded
import ImportSurvey.Report.Dump
import ImportSurvey.Report.Json
import ImportSurvey.Report.Walkthrough
import ImportSurvey.Scan
import ImportSurvey.Settings.Cascade

namespace ImportSurvey

/-- The two sides of an alias text, at its first equals sign. -/
def splitAlias (text : String) : Except CommandFault (String × String) :=
  match Text.cutFirst? '=' text.toList with
  | none => .error (.aliasText text .noEqualsSign)
  | some ([], _) => .error (.aliasText text .emptyStem)
  | some (stem, folder) => .ok (String.ofList stem, String.ofList folder)

namespace Settings

/-- A list from the command line replaces one from the settings files, unless it is empty. -/
def orElse (given found : List String) : List String := if given.isEmpty then found else given

/-- Lays options, of whose alias texts the two sides are known, over the settings. -/
def override (s : Settings) (o : ScanOptions) (aliases : List (String × String)) : Settings :=
  { s with
    languages := orElse o.languages s.languages
    extensions := orElse o.extensions s.extensions
    patterns := orElse o.patterns s.patterns
    skipDirs := addNames s.skipDirs o.skip
    exclude := s.exclude ++ o.exclude
    excludeCrowded := s.excludeCrowded || o.excludeCrowded
    crowdedFrom := o.crowdedFrom.getD s.crowdedFrom
    strictWalk := s.strictWalk && !o.bestEffort
    aliasesEnabled := s.aliasesEnabled && !o.noAliases
    useMappings := s.useMappings && !o.noMappings
    aliases := addAliases s.aliases aliases }

/-- The settings for a command: those of the settings files, and the options over them. -/
def ofOptions (d : Disk) (o : ScanOptions) : Except CommandFault Settings := do
  let base ← (d.realPlace o.base).mapError (CommandFault.base o.base)
  let s ← (load d base).mapError CommandFault.settings
  let aliases ← o.aliases.mapM splitAlias
  return s.override o aliases

/-- The folders that are left out: those given, and the crowded ones if they are unwanted. -/
def exclusions (s : Settings) (survey : Survey) : List String :=
  s.exclude ++
    if s.excludeCrowded then (survey.tree.crowded s.crowdedFrom).map (·.path) else []

/-- Makes the survey that the settings ask for. -/
def survey (d : Disk) (s : Settings) : Except CommandFault Survey := do
  let p ← (s.plan d).mapError CommandFault.settings
  let survey ← (p.survey d).mapError (CommandFault.survey s.base)
  let excluded := s.exclusions survey
  return if excluded.isEmpty then survey else survey.without excluded

end Settings

/-- How a command ends. -/
inductive ExitCode where
  | success
  | error
  | invalidInput
  | checkFailed
deriving DecidableEq, Repr

def ExitCode.number : ExitCode → Nat
  | .success => 0
  | .error => 1
  | .invalidInput => 2
  | .checkFailed => 3

/-- What a command prints, and how it ends. -/
structure Answer where
  exit : ExitCode
  output : List String
  notes : List String
deriving DecidableEq, Repr

namespace Command

open Report (Style)

def warning (coloured : Bool) (text : String) : String :=
  Style.paint coloured .yellow "WARN:" ++ " " ++ text

def failure (coloured : Bool) (text : String) : String :=
  Style.paint coloured .boldRed "[FAIL]" ++ " " ++ text

/-- The warning that no file is in scope. -/
def emptyNotes (coloured : Bool) (s : Survey) : List String :=
  if s.isEmpty then
    [warning coloured
      "nothing in scope; set --lang, or --ext and --pattern (or [scan] in strata.toml)"]
  else []

def issueNotes (coloured : Bool) (s : Survey) : List String :=
  s.issues.map fun i => warning coloured ("skipped " ++ i.path ++ ": " ++ i.message)

/-- An answer that fails with a note if something is found that should not be there. -/
def checked (strict : Bool) (found : Bool) (note : String) (output notes : List String) : Answer :=
  if strict && found then ⟨.checkFailed, output, notes ++ [note]⟩ else ⟨.success, output, notes⟩

def dump (coloured : Bool) (json strict : Bool) (s : Survey) : Answer :=
  let pairs := s.mutualPairs
  checked strict (!pairs.isEmpty)
    (failure coloured (toString pairs.length ++ " mutual dependencies found"))
    (if json then [(Report.surveyJson s).pretty] else Report.Dump.lines s)
    (emptyNotes coloured s ++ issueNotes coloured s)

def review (coloured : Bool) (number : Nat) (s : Survey) : Answer :=
  match Report.Walkthrough.page s number with
  | .page number total body =>
    ⟨.success, [(Report.PageAnswer.page number total body).text], emptyNotes coloured s⟩
  | .outOfRange requested total =>
    ⟨.invalidInput, [], emptyNotes coloured s ++
      [Style.paint coloured .yellow (Report.PageAnswer.outOfRange requested total).text]⟩

def listCrowded (coloured : Bool) (json strict : Bool) (threshold : Nat) (s : Survey) : Answer :=
  let found := s.tree.crowded threshold
  checked strict (!found.isEmpty)
    (failure coloured (toString found.length ++ " suspicious " ++
      Text.plural found.length "directory" "directories" ++ " found"))
    (if json then [(Report.crowdedJson found).pretty]
      else Report.Crowded.lines coloured threshold found)
    []

/-- Does a task with a survey. -/
def perform (coloured : Bool) (settings : Settings) (s : Survey) : Task → Answer
  | .dump json strict => dump coloured json strict s
  | .review page => review coloured page s
  | .listCrowded json strict => listCrowded coloured json strict settings.crowdedFrom s

/-- Carries out a command. -/
def run (d : Disk) (coloured : Bool) (c : Command) : Except CommandFault Answer := do
  let settings ← Settings.ofOptions d c.options
  let survey ← settings.survey d
  return perform coloured settings survey c.task

end Command

end ImportSurvey
