import ImportSurvey.Extraction
import ImportSurvey.Language
import ImportSurvey.PathMappings
import ImportSurvey.ScanFault
import ImportSurvey.Settings.Basic

namespace ImportSurvey

/-- What to do about something that cannot be read. -/
inductive WalkMode where
  /-- It ends the survey. -/
  | failFast
  /-- It is noted and passed over. -/
  | bestEffort
deriving DecidableEq, Repr

structure Plan where
  base : String
  extensions : List String
  patterns : List ImportPattern
  skipDirs : NameSet
  /-- Nothing if aliases are disabled. -/
  aliases : Option AliasTable
  mode : WalkMode

namespace Plan

/-- Whether nothing was asked for: without extensions no file counts, and without patterns no import
is found. -/
def isUnscoped (p : Plan) : Bool := p.extensions.isEmpty || p.patterns.isEmpty

end Plan

namespace Settings

/-- An extension without white space around it and without points in front. -/
def cleanExtension (text : String) : String :=
  String.ofList ((trimmed text).toList.dropWhile (· == '.'))

/-- The presets of the languages that have one. -/
def presets (s : Settings) : List Language := s.languages.filterMap Language.preset?

/-- The extensions of the languages and the ones given, clean and each once. -/
def planExtensions (s : Settings) : List String :=
  firstOccurrences
    (((s.presets.flatMap (·.extensions) ++ s.extensions).map cleanExtension).filter (!·.isEmpty))

/-- The patterns of the languages and the ones given, each once. -/
def planPatterns (s : Settings) : List String :=
  firstOccurrences (s.presets.flatMap (·.patterns) ++ s.patterns)

/-- Reads patterns up to the first one that is wrong. -/
def readPatterns (texts : List String) : Except ScanFault (List ImportPattern) :=
  texts.mapM fun text => (ImportPattern.ofText text).mapError (ScanFault.pattern text)

/-- The aliases that path mappings make, if they are used. -/
def mappedAliases (d : Disk) (s : Settings) : List (String × String) :=
  if s.useMappings then ((PathMappings.ofFolder? d s.base).map (·.aliases)).getD [] else []

/-- The aliases given, then those of path mappings. -/
def aliasTable (d : Disk) (s : Settings) : Option AliasTable :=
  if s.aliasesEnabled then
    some ((AliasTable.ofPairs s.aliases.entries).enterAll (mappedAliases d s))
  else none

/-- Makes the plan of a survey. -/
def plan (d : Disk) (s : Settings) : Except ScanFault Plan :=
  (readPatterns s.planPatterns).map fun patterns =>
    { base := s.base
      extensions := s.planExtensions
      patterns
      skipDirs := .ofNames s.skipDirs
      aliases := aliasTable d s
      mode := if s.strictWalk then .failFast else .bestEffort }

end Settings

end ImportSurvey
