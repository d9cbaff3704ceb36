import ImportSurvey.Disk.Fault

namespace ImportSurvey

/-- An entry of a disk: a file with its bytes, a symbolic link with its target, or a folder with the
entries in it, listed by name. Files and folders can be closed to the reader. An entry can also be
lost: the listing of its folder breaks off with a fault before it, and looking it up has the same
fault. -/
inductive DiskEntry where
  | file (readable : Bool) (content : List UInt8)
  | link (target : String)
  | folder (readable : Bool) (entries : List (String × DiskEntry))
  | lost (cause : DiskFault)

namespace DiskEntry

def isFolder : DiskEntry → Bool
  | .folder _ _ => true
  | _ => false

/-- What a lost entry is lost to. -/
def fault? : DiskEntry → Option DiskFault
  | .lost cause => some cause
  | _ => none

/-- What the listing of entries breaks off with, if some of them are lost. -/
def breakOff? (entries : List (String × DiskEntry)) : Option DiskFault :=
  entries.findSome? fun entry => entry.2.fault?

/-- Puts an entry under a name, in the order of the names; one of the same name is replaced. -/
def putEntry (name : String) (e : DiskEntry) :
    List (String × DiskEntry) → List (String × DiskEntry)
  | [] => [(name, e)]
  | other :: rest =>
    if name < other.1 then (name, e) :: other :: rest
    else if name = other.1 then (name, e) :: rest
    else other :: putEntry name e rest

/-- The entries of a folder; other entries have none. -/
def entries : DiskEntry → List (String × DiskEntry)
  | .folder _ es => es
  | _ => []

/-- Puts an entry at the end of a path of names; folders on the way are made if they are missing. -/
def putAt (e : DiskEntry) : List String → DiskEntry → DiskEntry
  | [], _ => e
  | name :: path, .folder readable es =>
    .folder readable (putEntry name (putAt e path ((es.lookup name).getD (.folder true []))) es)
  | name :: path, _ => .folder true [(name, putAt e path (.folder true []))]

end DiskEntry

end ImportSurvey
