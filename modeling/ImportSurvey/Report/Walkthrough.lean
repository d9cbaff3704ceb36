import ImportSurvey.Report.Outline
import ImportSurvey.Survey

namespace ImportSurvey.Report

/-- What asking for a page gives. -/
inductive PageAnswer where
  | page (number total : Nat) (body : String)
  | outOfRange (requested total : Nat)
deriving DecidableEq, Repr

def PageAnswer.text : PageAnswer → String
  | .page number total body =>
    body ++ "\n--- page " ++ toString number ++ "/" ++ toString total ++ " ---"
  | .outOfRange requested total =>
    "Page " ++ toString requested ++ " is out of range: this review has " ++ toString total ++
      " " ++ Text.plural total "page" "pages" ++ " (1-" ++ toString total ++ ")."

/-- Whether an import leads to a place in the tree outside `folder`. -/
def leavesFolder (folder : String) (i : Import) : Bool :=
  i.isInternal && !Path.within (Path.parent i.target) folder

namespace Walkthrough

/-- The folders that have a page, in page order: the base folder first. -/
def folders (s : Survey) : List String :=
  (if s.tree.contains Path.root then [Path.root] else []) ++ s.tree.names.filter (· != Path.root)

def pageCount (s : Survey) : Nat := 1 + s.tree.size

/-- An import on a folder's page. -/
structure ImportLine where
  /-- The name of the importing file in its folder. -/
  file : String
  raw : String
  target : String
deriving DecidableEq, Repr

/-- The imports that lead from a file of a folder out of the folder. -/
def outgoing (s : Survey) (folder name : String) : List ImportLine :=
  match s.records.get? (Path.inFolder folder name) with
  | some record => (record.imports.filter (leavesFolder folder)).map fun i => ⟨name, i.raw, i.target⟩
  | none => []

/-- The imports on a folder's page, grouped by file. -/
def groups (s : Survey) (folder : String) : List (String × List ImportLine) :=
  ((s.tree.filesIn folder).map fun name => (name, outgoing s folder name)).filter fun g =>
    !g.2.isEmpty

def importText (name : String) (line : ImportLine) : String :=
  let verdict := if Path.within line.target name then "within " else "leaves "
  "  " ++ line.raw ++ " -> " ++ line.target ++ "  [" ++ verdict ++ name ++ "]"

def folderHeader (s : Survey) (folder : String) : String :=
  let count := s.tree.fileCount folder
  "# " ++ folder ++ "/ (" ++ toString count ++ " " ++ Text.plural count "file" "files" ++
    ", parent module: " ++ Path.moduleOf folder ++ ")"

/-- The lines of a folder's page. -/
def folderLines (s : Survey) (folder : String) : List String :=
  [folderHeader s folder, ""] ++
    (if (groups s folder).isEmpty then ["No cross-directory imports."]
    else (groups s folder).flatMap fun g =>
      g.1 :: g.2.map (importText (Path.moduleOf folder)))

/-- The index of the overview: page numbers with their folders. -/
def index (s : Survey) : List (Nat × String) :=
  (folders s).zipIdx.map fun (folder, i) => (i + 2, folder)

def indexLine (entry : Nat × String) : String :=
  "  " ++ Text.padLeft 3 (toString entry.1) ++ "  " ++ entry.2

def overviewLines (s : Survey) : List String :=
  ["# Architecture review: " ++ s.base, ""] ++ Outline.lines s.tree ++
    (if (folders s).isEmpty then [] else ["", "Pages:"] ++ (index s).map indexLine)

/-- The folder shown on a page, if it is not the overview. -/
def folderOf? (s : Survey) (number : Nat) : Option String :=
  if number < 2 then none else (folders s)[number - 2]?

def bodyLines (s : Survey) (number : Nat) : List String :=
  match folderOf? s number with
  | some folder => folderLines s folder
  | none => overviewLines s

/-- Page `number`, counted from one. -/
def page (s : Survey) (number : Nat) : PageAnswer :=
  if number = 0 ∨ pageCount s < number then .outOfRange number (pageCount s)
  else .page number (pageCount s) (unlines (bodyLines s number))

end Walkthrough

end ImportSurvey.Report
