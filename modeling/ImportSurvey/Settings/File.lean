import ImportSurvey.Catalog
import ImportSurvey.Toml.Reader

namespace ImportSurvey

/-- What a settings file says about the scope of a survey. -/
structure ScanSection where
  languages : Option (List String) := none
  extensions : Option (List String) := none
  patterns : Option (List String) := none
  skipDirs : Option (List String) := none
  exclude : Option (List String) := none
  crowdedFrom : Option Nat := none
  strictWalk : Option Bool := none
deriving DecidableEq, Repr

/-- What a settings file says about aliases. -/
structure AliasSection where
  enabled : Option Bool := none
  mappings : Option Bool := none
  folders : Catalog String := .empty
deriving DecidableEq

/-- A settings file. -/
structure SettingsFile where
  scan : ScanSection := {}
  aliases : AliasSection := {}
deriving DecidableEq

namespace SettingsFile

/-- How settings files are called. -/
def name : String := "strata.toml"

/-- The key under which a date or time stands where fields are expected. -/
def momentKey : String := "$__toml_private_datetime"

/-- The fields of a section, each found by its name or its position: a section is a table, or an
array of its fields in order. A date or time has no field of a section. -/
def fieldsOf? : TomlValue → Option (String → Nat → Option TomlValue)
  | .table fields => some fun name _ => fields.lookup name
  | .array items => some fun _ position => items[position]?
  | .moment _ => some fun _ _ => none
  | _ => none

/-- Reads a field that may be missing. -/
def optional? {α : Type} (read : TomlValue → Option α) : Option TomlValue → Option (Option α)
  | none => some none
  | some v => (read v).map some

/-- Reads a field that may be missing and then has a default. -/
def defaulting? {α : Type} (default : α) (read : TomlValue → Option α) :
    Option TomlValue → Option α
  | none => some default
  | some v => read v

def namedText? : String × TomlValue → Option (String × String)
  | (name, .string text) => some (name, text)
  | _ => none

/-- Folders under the stems of aliases. -/
def folders? : TomlValue → Option (Catalog String)
  | .table fields => (fields.mapM namedText?).map .ofList
  | .moment text => some (.ofList [(momentKey, text)])
  | _ => none

def scanSection? (v : TomlValue) : Option ScanSection := do
  let field ← fieldsOf? v
  return {
    languages := ← optional? TomlValue.texts? (field "languages" 0)
    extensions := ← optional? TomlValue.texts? (field "extensions" 1)
    patterns := ← optional? TomlValue.texts? (field "patterns" 2)
    skipDirs := ← optional? TomlValue.texts? (field "skip_dirs" 3)
    exclude := ← optional? TomlValue.texts? (field "exclude" 4)
    crowdedFrom := ← optional? TomlValue.count? (field "suspicious_threshold" 5)
    strictWalk := ← optional? TomlValue.boolean? (field "strict_walk" 6) }

def aliasSection? (v : TomlValue) : Option AliasSection := do
  let field ← fieldsOf? v
  return {
    enabled := ← optional? TomlValue.boolean? (field "enabled" 0)
    mappings := ← optional? TomlValue.boolean? (field "tsconfig" 1)
    folders := ← defaulting? .empty folders? (field "map" 2) }

/-- The settings file that a TOML document stands for. Fields with other names do not count. -/
def ofText? (text : String) : Option SettingsFile := do
  let field ← fieldsOf? (← TomlValue.ofDocument? text)
  return {
    scan := ← defaulting? {} scanSection? (field "scan" 0)
    aliases := ← defaulting? {} aliasSection? (field "aliases" 1) }

end SettingsFile

end ImportSurvey
