import ImportSurvey.Catalog
import ImportSurvey.FileImports

namespace ImportSurvey

/-- For each folder with imports from elsewhere in the tree, the folders it imports from. -/
structure FolderGraph where
  targets : Catalog NameSet
deriving DecidableEq

/-- Two folders that import from each other, in order. -/
structure MutualPair where
  first : String
  second : String
deriving DecidableEq, Repr

namespace FolderGraph

def empty : FolderGraph := ⟨.empty⟩

/-- Adds an edge between two different folders. -/
def addEdge (g : FolderGraph) (source target : String) : FolderGraph :=
  if target = source then g
  else ⟨g.targets.alter source fun old => (old.getD .empty).add target⟩

/-- Adds an edge for each file of another folder that a file imports. -/
def addFile (g : FolderGraph) (entry : String × FileImports) : FolderGraph :=
  entry.2.resolved.foldl (fun g target => g.addEdge (Path.parent entry.1) (Path.parent target)) g

/-- The graph of the imports of some files. -/
def ofRecords (records : Catalog FileImports) : FolderGraph := records.entries.foldl addFile empty

def hasEdge (g : FolderGraph) (source target : String) : Bool :=
  (g.targets.get? source).any (·.contains target)

/-- The edges, ordered by source and then by target. -/
def edges (g : FolderGraph) : List (String × String) :=
  g.targets.entries.flatMap fun e => e.2.names.map (e.1, ·)

/-- The pairs with edges both ways, each once, in order. -/
def mutualPairs (g : FolderGraph) : List MutualPair :=
  (g.edges.filter fun e => e.1 < e.2 && g.hasEdge e.2 e.1).map fun e => ⟨e.1, e.2⟩

end FolderGraph

end ImportSurvey
