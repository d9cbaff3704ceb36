import ImportSurvey.Alias
import ImportSurvey.Catalog
import ImportSurvey.Disk.Basic
import ImportSurvey.Json.Comments
import ImportSurvey.Json.Reader

namespace ImportSurvey

/-- Path mappings: for each pattern its targets, counted from a base folder. -/
structure PathMappings where
  base : String
  targets : Catalog (List String)
deriving DecidableEq

namespace PathMappings

/-- The only value under a name of an object whose names have to be texts; nothing under the name,
or a name given twice. -/
inductive Field where
  | absent
  | single (v : JsonValue)
  | repeated

/-- The values under a name. -/
def fieldOf (name : String) (fields : List (Option String × JsonValue)) : Field :=
  match (fields.filter fun f => f.1 = some name).map (·.2) with
  | [] => .absent
  | [v] => .single v
  | _ => .repeated

/-- A text, unless it is left out or null. -/
def optionalText? : JsonValue → Option (Option String)
  | .null => some none
  | .string (some text) => some (some text)
  | _ => none

def text? : JsonValue → Option String
  | .string text => text
  | _ => none

def texts? : JsonValue → Option (List String)
  | .array items => items.mapM text?
  | _ => none

/-- A pattern with its targets. -/
def targetEntry? : Option String × JsonValue → Option (String × List String)
  | (some pattern, targets) => (texts? targets).map (pattern, ·)
  | (none, _) => none

/-- The targets of patterns, unless they are left out or null. Of targets of one pattern the last
ones count. -/
def optionalTargets? : JsonValue → Option (Option (Catalog (List String)))
  | .null => some none
  | .object fields =>
    (fields.mapM targetEntry?).map fun entries => some (.ofList entries)
  | _ => none

/-- Reads a field that may be left out, which then is as if it were null. -/
def Field.read? {α : Type} (read : JsonValue → Option α) : Field → Option α
  | .absent => read .null
  | .single v => read v
  | .repeated => none

/-- The mappings of a base folder and targets that may be left out. -/
def ofParts (base : Option String) (targets : Option (Catalog (List String))) : PathMappings :=
  ⟨base.getD Path.root, targets.getD .empty⟩

/-- Whether all names of an object are texts. -/
def namesAreTexts (fields : List (Option String × JsonValue)) : Bool :=
  fields.all (·.1.isSome)

/-- The mappings in the options of a project: an object, or an array of its fields in order. -/
def ofOptions? : JsonValue → Option PathMappings
  | .object fields =>
    if namesAreTexts fields then do
      return ofParts (← (fieldOf "baseUrl" fields).read? optionalText?)
        (← (fieldOf "paths" fields).read? optionalTargets?)
    else none
  | .array [base, targets] => do
    return ofParts (← optionalText? base) (← optionalTargets? targets)
  | _ => none

/-- The mappings in the settings of a project: an object, or an array of its only field. -/
def ofJson? : JsonValue → Option PathMappings
  | .object fields =>
    if namesAreTexts fields then (fieldOf "compilerOptions" fields).read? ofOptions? else none
  | .array [options] => ofOptions? options
  | _ => none

/-- The mappings that a text spells, which may have comments. -/
def ofText? (text : String) : Option PathMappings :=
  (JsonValue.ofJsonText? (JsonComments.strip text)).bind ofJson?

/-- The files that may hold mappings; the first one that does counts. -/
def fileNames : List String := ["tsconfig.json", "jsconfig.json"]

/-- The mappings of the project in a folder. -/
def ofFolder? (d : Disk) (folder : String) : Option PathMappings :=
  fileNames.findSome? fun name =>
    ((d.readText (Place.join folder name)).toOption).bind ofText?

/-- What stands before the star at the end of a pattern. -/
def stem? (pattern : String) : Option String :=
  (Text.before? ['*'] pattern.toList).map String.ofList

/-- The alias that a pattern with its targets makes: both the pattern and the first target have to
end with a star, and the folder may not lie outside the base folder. -/
def aliasOf? (base : String) (pattern : String) (targets : List String) :
    Option (String × String) := do
  let stem ← stem? pattern
  let target ← stem? (← targets.head?)
  let folder ← Path.join? base target
  if stem.isEmpty then none else return (stem, folder)

/-- The aliases that the mappings make, in the order of the patterns. -/
def aliases (m : PathMappings) : List (String × String) :=
  m.targets.entries.filterMap fun e => aliasOf? m.base e.1 e.2

end PathMappings

end ImportSurvey
