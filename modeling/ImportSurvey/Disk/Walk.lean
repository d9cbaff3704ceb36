import ImportSurvey.Disk.Basic
import ImportSurvey.Path.Basic

namespace ImportSurvey

/-- Something met on a walk, with the names that lead there from the start. -/
inductive Sight where
  | file (names : List String)
  /-- A folder that cannot be listed, or a start that cannot be reached. -/
  | blocked (names : List String) (fault : DiskFault)
  /-- Something in a folder that the listing breaks off at, so that no name leads further than to
  the folder. -/
  | lost (names : List String) (fault : DiskFault)
deriving DecidableEq, Repr

namespace DiskEntry

mutual

/-- What there is to see at an entry. In a folder a fault of the listing comes before everything
that is listed. -/
def sights (skipped : String → Bool) (names : List String) : DiskEntry → List Sight
  | .file _ _ => [.file names]
  | .link _ => []
  | .folder readable entries =>
    if readable then
      (breakOff? entries).toList.map (.lost names) ++ sightsIn skipped names entries
    else [.blocked names .denied]
  | .lost _ => []

/-- What there is to see in a folder, apart from the folders in it that are skipped. -/
def sightsIn (skipped : String → Bool) (names : List String) :
    List (String × DiskEntry) → List Sight
  | [] => []
  | (name, e) :: rest =>
    (if e.isFolder && skipped name then [] else e.sights skipped (names ++ [name])) ++
      sightsIn skipped names rest

end

end DiskEntry

namespace Disk

/-- Walks from a place. The place may be a link to a folder, but one to a file shows nothing. -/
def sights (d : Disk) (skipped : String → Bool) (place : String) : List Sight :=
  match d.look false place with
  | .error fault => [.blocked [] fault]
  | .ok ⟨_, .link _⟩ =>
    match d.look true place with
    | .error fault => [.blocked [] fault]
    | .ok ⟨_, .folder readable entries⟩ =>
      DiskEntry.sights skipped [] (.folder readable entries)
    | .ok _ => []
  | .ok found => found.entry.sights skipped []

end Disk

/-- The path of names below the start of a walk. A backslash in a name becomes a slash. -/
def walkPath (names : List String) : String := Path.withSlashes ("/".intercalate names)

end ImportSurvey
