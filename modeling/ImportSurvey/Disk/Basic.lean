import ImportSurvey.Disk.Entry
import ImportSurvey.Disk.Fault
import ImportSurvey.Disk.Place
import ImportSurvey.Text.Utf8

namespace ImportSurvey

/-- A disk as it stands at one moment, and the folder that places without a slash in front are
counted from. -/
structure Disk where
  root : DiskEntry
  workFolder : String

namespace Disk

/-- A folder on the way to a place: its name, whether it is readable, and what it holds. -/
structure Level where
  name : String
  readable : Bool
  entries : List (String × DiskEntry)

/-- Folders from the innermost one out to the root, which has no name. -/
abbrev Trail := List Level

/-- The names of the folders below the root. -/
def Trail.names (trail : Trail) : List String := (trail.reverse.drop 1).map (·.name)

/-- What stands at a place: the names that lead to it without links, and the entry. -/
structure Found where
  names : List String
  entry : DiskEntry

/-- The folder that a trail leads to. -/
def Trail.found (trail : Trail) : Found :=
  match trail with
  | [] => ⟨[], .folder true []⟩
  | level :: _ => ⟨trail.names, .folder level.readable level.entries⟩

/-- Whether the innermost folder lets anything be looked up in it. -/
def Trail.searchable : Trail → Bool
  | [] => true
  | level :: _ => level.readable

/-- Leaves the innermost folder; the root is its own outer folder. -/
def Trail.outer : Trail → Trail
  | _ :: level :: rest => level :: rest
  | trail => trail

/-- How long a name and a place may be, in bytes. -/
def maxName : Nat := 255
def maxPlace : Nat := 4095

/-- How many links may be met on the way to a place. -/
def maxLinks : Nat := 40

/-- Follows the parts of a place from a folder. All of them, the dots too, are looked up in the
folder, apart from empty ones. A link is followed by `jump`, which takes the trail, the target and
the parts that are left; one at the very end only if `followLast` says so. -/
def followParts (jump : Trail → String → List String → Except DiskFault Found)
    (followLast : Bool) : Trail → List String → Except DiskFault Found
  | trail, [] => .ok trail.found
  | trail, part :: rest =>
    if part = "" then followParts jump followLast trail rest
    else if !trail.searchable then .error .denied
    else if part = "." then followParts jump followLast trail rest
    else if part = ".." then followParts jump followLast trail.outer rest
    else if maxName < part.utf8ByteSize then .error .nameTooLong
    else
      match trail with
      | [] => .error .missing
      | level :: _ =>
        match level.entries.lookup part with
        | none => .error .missing
        | some (.folder readable entries) =>
          followParts jump followLast (⟨part, readable, entries⟩ :: trail) rest
        | some (.link target) =>
          if followLast || !rest.isEmpty then jump trail target rest
          else .ok ⟨trail.names ++ [part], .link target⟩
        | some (.file readable content) =>
          if rest.isEmpty then .ok ⟨trail.names ++ [part], .file readable content⟩
          else .error .notFolder
        | some (.lost cause) => .error cause

/-- The trail of the root alone. -/
def rootTrail (d : Disk) : Trail :=
  match d.root with
  | .folder readable entries => [⟨"", readable, entries⟩]
  | _ => []

/-- Where a text is counted from. -/
def start (d : Disk) (trail : Trail) (place : String) : Trail :=
  if place.startsWith "/" then d.rootTrail else trail

/-- Follows parts with at most `links` links on the way. -/
def follow (d : Disk) (followLast : Bool) :
    Nat → Trail → List String → Except DiskFault Found
  | 0 => followParts (fun _ _ _ => .error .linkLoop) followLast
  | links + 1 =>
    followParts
      (fun trail target rest =>
        if target.isEmpty then .error .missing
        else d.follow followLast links (d.start trail target) (Place.parts target ++ rest))
      followLast

/-- What stands at a place. -/
def look (d : Disk) (followLast : Bool) (place : String) : Except DiskFault Found :=
  if '\x00' ∈ place.toList then .error .nulInName
  else if place.isEmpty then .error .missing
  else if maxPlace < place.utf8ByteSize then .error .nameTooLong
  else
    let place := if place.startsWith "/" then place else Place.join d.workFolder place
    d.follow followLast maxLinks d.rootTrail (Place.parts place)

/-- The place itself, without links and dots, if it is one that can be looked up: links may lead to
where that takes more bytes than a place may have. -/
def realPlace (d : Disk) (place : String) : Except DiskFault String := do
  let found ← d.look true place
  let real := Place.ofNames found.names
  if '\x00' ∈ real.toList then .error .nulInName
  else if maxPlace < real.utf8ByteSize then .error .nameTooLong
  else .ok real

/-- Whether a place holds a file, perhaps through links. -/
def isFile (d : Disk) (place : String) : Bool :=
  match d.look true place with
  | .ok ⟨_, .file _ _⟩ => true
  | _ => false

/-- The bytes of the file at a place. -/
def readBytes (d : Disk) (place : String) : Except DiskFault (List UInt8) :=
  match d.look true place with
  | .ok ⟨_, .file true content⟩ => .ok content
  | .ok ⟨_, .folder true _⟩ => .error .isFolder
  | .ok _ => .error .denied
  | .error fault => .error fault

/-- The text of the file at a place, which has to be text throughout. -/
def readText (d : Disk) (place : String) : Except DiskFault String :=
  match d.readBytes place with
  | .ok bytes =>
    match Text.Utf8.strict? bytes with
    | some text => .ok text
    | none => .error .notText
  | .error fault => .error fault

/-- The text of the file at a place, with the replacement character for what is no text. -/
def readLenient (d : Disk) (place : String) : Except DiskFault String :=
  (d.readBytes place).map Text.Utf8.lenient

end Disk

end ImportSurvey
