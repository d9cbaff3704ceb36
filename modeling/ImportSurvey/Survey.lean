import ImportSurvey.Folder.Graph
import ImportSurvey.Folder.Tree

namespace ImportSurvey

/-- An entry that could not be read and was passed over. -/
structure Issue where
  path : String
  message : String
deriving DecidableEq, Repr

structure Survey where
  base : String
  tree : FolderTree
  files : List String
  records : Catalog FileImports
  issues : List Issue
deriving DecidableEq

namespace Survey

/-- The survey of a tree where nothing was asked for. -/
def empty (base : String) : Survey := ⟨base, .empty, [], .empty, []⟩

def isEmpty (s : Survey) : Bool := s.files.isEmpty

def graph (s : Survey) : FolderGraph := .ofRecords s.records

def mutualPairs (s : Survey) : List MutualPair := s.graph.mutualPairs

/-- An excluded folder without `./` in front and slashes behind. -/
def cleanExclusion (text : String) : String :=
  String.ofList (Text.dropTrailing '/' (Alias.dropDotSlashes text.toList))

/-- The exclusions that name something below the base folder. -/
def exclusions (excluded : List String) : List String :=
  (excluded.map cleanExclusion).filter fun e => !e.isEmpty && e != Path.root

/-- Leaves out what lies in one of the excluded folders. -/
def without (s : Survey) (excluded : List String) : Survey :=
  let cleaned := exclusions excluded
  let outside (path : String) : Bool := !cleaned.any (Path.within path)
  { base := s.base
    tree := s.tree.without cleaned
    files := s.files.filter outside
    records := s.records.filterKeys outside
    issues := s.issues }

end Survey

end ImportSurvey
