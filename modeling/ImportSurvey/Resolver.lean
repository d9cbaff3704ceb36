import ImportSurvey.Alias
import ImportSurvey.Token
import Std.Data.HashSet

namespace ImportSurvey

/-- What became of an import. -/
inductive TargetKind where
  /-- It leads to a file of the tree. -/
  | resolved
  /-- It leads to a path in the tree where no file was found. -/
  | unresolved
  /-- It does not lead into the tree. -/
  | external
deriving DecidableEq, Repr

def TargetKind.name : TargetKind → String
  | .resolved => "resolved"
  | .unresolved => "unresolved"
  | .external => "external"

/-- Where an import leads. -/
structure Resolution where
  target : String
  kind : TargetKind
deriving DecidableEq, Repr

/-- Whether the target lies in the tree. -/
def Resolution.isInternal (r : Resolution) : Bool := r.kind != .external

/-- What tokens are resolved against. -/
structure Resolver where
  files : Std.HashSet String
  extensions : List String
  aliases : Option AliasTable

namespace Resolver

/-- The files that a path may mean, preferred ones first. -/
def candidates (r : Resolver) (path : String) : List String :=
  if path = Path.root then r.extensions.map fun e => "index." ++ e
  else path :: (r.extensions.map fun e => path ++ "." ++ e) ++
    r.extensions.map fun e => path ++ "/index." ++ e

/-- The file that a path means, or the path itself if there is none. -/
def locate (r : Resolver) (path : String) : Resolution :=
  match (r.candidates path).find? r.files.contains with
  | some file => ⟨file, .resolved⟩
  | none => ⟨path, .unresolved⟩

/-- Where a token leads that is imported by a file of `folder`; nothing if it leads above the base
folder. -/
def resolve? (r : Resolver) (token folder : String) : Option Resolution :=
  let relative := (Token.dotted? token).getD token
  if Token.isRelative relative then (Path.join? folder relative).map r.locate
  else match r.aliases.bind (·.match? token) with
    | some (found, rest) => (Path.join? found.folder rest).map r.locate
    | none => some ⟨token, .external⟩

end Resolver

end ImportSurvey
