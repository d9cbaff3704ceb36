import ImportSurvey.Text.Cut

namespace ImportSurvey.Path

/-- The base folder. -/
def root : String := "."

/-- The texts between the slashes, empty ones included. -/
def segments (path : String) : List String := (path.toList.splitOn '/').map String.ofList

/-- Writes segments with slashes between them. -/
def ofSegments (segs : List String) : String := "/".intercalate segs

/-- Goes one segment further from a folder that lies below the base folder by the segments `trail`,
innermost first. Empty segments and single dots stay, two dots climb, which fails at the base. -/
def step? (trail : List String) (segment : String) : Option (List String) :=
  if segment = "" ∨ segment = "." then some trail
  else if segment = ".." then
    match trail with
    | [] => none
    | _ :: outer => some outer
  else some (segment :: trail)

/-- The path with the given trail. -/
def ofTrail (trail : List String) : String :=
  match trail with
  | [] => root
  | _ :: _ => ofSegments trail.reverse

/-- Joins `rel` onto `folder`, without empty segments and dots; nothing if that climbs above the
base folder. -/
def join? (folder rel : String) : Option String :=
  ((segments folder ++ segments rel).foldlM step? []).map ofTrail

/-- The folder of a path: what stands before the last slash, or the base folder if that is
nothing. -/
def parent (path : String) : String :=
  match Text.cutLast? '/' path.toList with
  | some (c :: before, _) => String.ofList (c :: before)
  | _ => root

/-- The last segment. -/
def leaf (path : String) : String :=
  match Text.cutLast? '/' path.toList with
  | some (_, after) => String.ofList after
  | none => path

/-- Whether `path` is `folder` or lies below it. -/
def within (path folder : String) : Bool :=
  folder == root || path == folder || (folder ++ "/").toList.isPrefixOf path.toList

/-- The folders above `folder`, outermost first, without the base folder. -/
def ancestors (folder : String) : List String :=
  if folder = root then []
  else
    let segs := segments folder
    (List.range (segs.length - 1)).map fun n => ofSegments (segs.take (n + 1))

/-- How far a folder lies below the base folder. -/
def depth (folder : String) : Nat := if folder = root then 0 else (segments folder).length

/-- The module that a folder belongs to: the folder above it, or itself if it has no slash. -/
def moduleOf (folder : String) : String :=
  match Text.cutLast? '/' folder.toList with
  | some (before, _) => String.ofList before
  | none => folder

/-- The path of a file in a folder. -/
def inFolder (folder name : String) : String :=
  if folder = root then name else folder ++ "/" ++ name

/-- The text with slashes for backslashes. -/
def withSlashes (text : String) : String := String.ofList (Text.replace '\\' '/' text.toList)

end ImportSurvey.Path
