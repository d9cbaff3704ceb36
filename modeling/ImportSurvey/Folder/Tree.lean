import ImportSurvey.Catalog
import ImportSurvey.Path.Basic

namespace ImportSurvey

/-- For each folder with files, the names of the files directly in it. -/
structure FolderTree where
  folders : Catalog (List String)
deriving DecidableEq

namespace FolderTree

def empty : FolderTree := ⟨.empty⟩

instance : Inhabited FolderTree := ⟨empty⟩

/-- Adds a file behind the others of its folder. -/
def addFile (t : FolderTree) (file : String) : FolderTree :=
  ⟨t.folders.alter (Path.parent file) fun names => names.getD [] ++ [Path.leaf file]⟩

/-- Groups files, keeping their order in each folder. -/
def ofFiles (files : List String) : FolderTree := files.foldl addFile empty

def filesIn (t : FolderTree) (folder : String) : List String := (t.folders.get? folder).getD []

/-- The number of files directly in a folder. -/
def fileCount (t : FolderTree) (folder : String) : Nat := (t.filesIn folder).length

/-- Whether a folder has files of its own. -/
def contains (t : FolderTree) (folder : String) : Bool := t.folders.contains folder

/-- The folders that have files, in order. -/
def names (t : FolderTree) : List String := t.folders.keys

def size (t : FolderTree) : Nat := t.folders.size

/-- The number of files in all folders. -/
def total (t : FolderTree) : Nat := t.folders.entries.foldr (fun e count => e.2.length + count) 0

/-- The folders that have files, all folders above them, and the base folder. -/
def withAncestors (t : FolderTree) : NameSet :=
  NameSet.ofNames (Path.root :: t.names.flatMap fun folder => Path.ancestors folder ++ [folder])

/-- Leaves out every folder that lies in one of the excluded folders. -/
def without (t : FolderTree) (excluded : List String) : FolderTree :=
  ⟨t.folders.filterKeys fun folder => !excluded.any (Path.within folder)⟩

end FolderTree

/-- A folder that holds so many files that it may be copied or generated. -/
structure CrowdedFolder where
  path : String
  fileCount : Nat
deriving DecidableEq, Repr

/-- The folders below the base folder with at least `threshold` files of their own, those with more
files first and equal ones in order. -/
def FolderTree.crowded (t : FolderTree) (threshold : Nat) : List CrowdedFolder :=
  ((t.folders.entries.filter fun e => e.1 != Path.root && threshold ≤ e.2.length).map fun e =>
    CrowdedFolder.mk e.1 e.2.length).mergeSort fun a b => b.fileCount ≤ a.fileCount

end ImportSurvey
