import ImportSurvey.Folder.Tree

namespace ImportSurvey.Report

/-- Lines as a text, each followed by a line end. -/
def unlines (lines : List String) : String := String.join (lines.map (· ++ "\n"))

/-- A folder of the outline with the number of files directly in it. -/
structure OutlineRow where
  folder : String
  fileCount : Nat
deriving DecidableEq, Repr

namespace Outline

/-- The folders of a set that lie directly in `folder`. -/
def childrenOf (all : List String) (folder : String) : List String :=
  all.filter fun f => f != Path.root && Path.parent f == folder

/-- A folder and everything below it, in order. A folder is longer than the one it lies in, so as
many levels as there are folders are enough. -/
def descend (all : List String) : Nat → String → List String
  | 0, _ => []
  | level + 1, folder => folder :: (childrenOf all folder).flatMap (descend all level)

/-- The rows of a tree's outline. -/
def rows (t : FolderTree) : List OutlineRow :=
  let all := t.withAncestors.names
  (descend all all.length Path.root).map fun folder => ⟨folder, t.fileCount folder⟩

def header (t : FolderTree) : String :=
  toString t.total ++ " " ++ Text.plural t.total "file" "files" ++ " in " ++ toString t.size ++
    " " ++ Text.plural t.size "directory" "directories"

def rowText (row : OutlineRow) : String :=
  String.join (List.replicate (Path.depth row.folder) "  ") ++ Path.leaf row.folder ++ "/ (" ++
    toString row.fileCount ++ " " ++ Text.plural row.fileCount "file" "files" ++ ")"

def lines (t : FolderTree) : List String := header t :: (rows t).map rowText

end Outline

/-- The outline of a tree as text. -/
def outline (t : FolderTree) : String := unlines (Outline.lines t)

end ImportSurvey.Report
