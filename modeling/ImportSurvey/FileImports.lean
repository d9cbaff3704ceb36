import ImportSurvey.Extraction
import ImportSurvey.Resolver

namespace ImportSurvey

/-- An import: the token as written, and where it leads. -/
structure Import where
  raw : String
  target : String
  kind : TargetKind
deriving DecidableEq, Repr

/-- Whether the import leads into the tree. -/
def Import.isInternal (i : Import) : Bool := i.kind != .external

/-- The imports of a file, as three lists. -/
structure FileImports where
  /-- Every target once, in the order of first mention. -/
  all : List String
  /-- Every target that is a file of the tree, once, in the order of first mention. -/
  resolved : List String
  /-- Every import, in the order of extraction. -/
  imports : List Import
deriving DecidableEq, Repr

namespace FileImports

def empty : FileImports := ⟨[], [], []⟩

instance : Inhabited FileImports := ⟨empty⟩

/-- The lists that belong to a sequence of imports. -/
def ofImports (imports : List Import) : FileImports :=
  { all := firstOccurrences (imports.map (·.target))
    resolved := firstOccurrences ((imports.filter (·.kind == .resolved)).map (·.target))
    imports }

/-- The import that a token makes in a file of `folder`, unless it leads above the base folder. -/
def importOf? (resolver : Resolver) (folder token : String) : Option Import :=
  (resolver.resolve? token folder).map fun r => ⟨token, r.target, r.kind⟩

/-- The imports of a file with the given content. -/
def ofContent (resolver : Resolver) (matchers : List Matcher) (file content : String) :
    FileImports :=
  ofImports ((extractTokens matchers content).filterMap (importOf? resolver (Path.parent file)))

end FileImports

end ImportSurvey
