import ImportSurvey.Settings.File

namespace ImportSurvey

structure Settings where
  base : String
  languages : List String
  extensions : List String
  patterns : List String
  /-- The names of folders that are not entered. -/
  skipDirs : List String
  /-- The folders that are left out of the survey. -/
  exclude : List String
  /-- Whether crowded folders are left out too. -/
  excludeCrowded : Bool
  /-- The number of files from which on a folder is crowded. -/
  crowdedFrom : Nat
  /-- Whether anything that cannot be read ends the survey. -/
  strictWalk : Bool
  aliasesEnabled : Bool
  /-- Whether path mappings of script projects make aliases. -/
  useMappings : Bool
  aliases : Catalog String
deriving DecidableEq

namespace Settings

/-- The folders that are skipped in any case: those of version control, of packages, of builds and
of tools. -/
def skippedAlways : List String :=
  [".git", ".hg", ".svn", "node_modules", "dist", "build", "target", "out", ".next", ".nuxt",
    ".venv", "venv", "__pycache__", ".tox", ".cache", "coverage", ".idea", ".vscode"]

/-- The settings before anything is said about them. -/
def ofBase (base : String) : Settings :=
  { base
    languages := []
    extensions := []
    patterns := []
    skipDirs := skippedAlways
    exclude := []
    excludeCrowded := false
    crowdedFrom := 50
    strictWalk := true
    aliasesEnabled := true
    useMappings := true
    aliases := .empty }

/-- Adds names behind the others, those that are not there yet. -/
def addNames (old new : List String) : List String :=
  new.foldl (fun names name => if names.contains name then names else names ++ [name]) old

/-- Enters folders under the stems of aliases; they replace what was there. -/
def addAliases (old : Catalog String) (new : List (String × String)) : Catalog String :=
  new.foldl (fun c e => c.insert e.1 e.2) old

/-- Lays a settings file over the settings: what it mentions replaces what was there, but skipped
folders and aliases are added. -/
def apply (s : Settings) (file : SettingsFile) : Settings :=
  { s with
    languages := file.scan.languages.getD s.languages
    extensions := file.scan.extensions.getD s.extensions
    patterns := file.scan.patterns.getD s.patterns
    skipDirs := addNames s.skipDirs (file.scan.skipDirs.getD [])
    exclude := file.scan.exclude.getD s.exclude
    crowdedFrom := file.scan.crowdedFrom.getD s.crowdedFrom
    strictWalk := file.scan.strictWalk.getD s.strictWalk
    aliasesEnabled := file.aliases.enabled.getD s.aliasesEnabled
    useMappings := file.aliases.mappings.getD s.useMappings
    aliases := addAliases s.aliases file.aliases.folders.entries }

end Settings

end ImportSurvey
