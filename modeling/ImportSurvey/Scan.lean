import ImportSurvey.Disk.Walk
import ImportSurvey.Settings.Plan
import ImportSurvey.Survey

namespace ImportSurvey

/-- Something on a disk that cannot be read. Unless it is lost, it has a path below the base folder
and a place on the disk. -/
inductive Obstacle where
  /-- A folder that a walk cannot enter. -/
  | onWalk (path place : String) (cause : DiskFault)
  /-- Something that a walk cannot even name. -/
  | lost (cause : DiskFault)
  /-- A file that was walked past and is to be read. -/
  | onReading (path place : String) (cause : DiskFault)
deriving DecidableEq, Repr

namespace Obstacle

/-- The fault that the obstacle is if nothing may be passed over. -/
def fault : Obstacle → ScanFault
  | .onWalk _ place cause => .disk cause place
  | .lost cause => .walk cause
  | .onReading _ place cause => .disk cause place

def path : Obstacle → String
  | .onWalk path _ _ => path
  | .lost _ => ScanFault.unknownPlace
  | .onReading path _ _ => path

/-- How an obstacle that is passed over is told. -/
def message (o : Obstacle) : String :=
  match o with
  | .onWalk _ place cause => "IO error for operation on " ++ place ++ ": " ++ cause.text
  | .lost cause => cause.text
  | .onReading _ _ _ => o.fault.text

def issue (o : Obstacle) : Issue := ⟨o.path, o.message⟩

end Obstacle

/-- The files that a walk shows. -/
def walkedFile? : Sight → Option String
  | .file names => some (walkPath names)
  | .blocked _ _ => none
  | .lost _ _ => none

/-- What a walk from a place cannot enter or name. -/
def walkObstacle? (base : String) : Sight → Option Obstacle
  | .file _ => none
  | .blocked names cause => some (.onWalk (walkPath names) (Place.joinAll base names) cause)
  | .lost _ cause => some (.lost cause)

/-- The files below a place and what cannot be entered or named there. -/
structure Walk where
  files : List String
  obstacles : List Obstacle
deriving DecidableEq, Repr

def Walk.ofDisk (d : Disk) (skipped : NameSet) (base : String) : Walk :=
  let sights := d.sights skipped.contains base
  ⟨sights.filterMap walkedFile?, sights.filterMap (walkObstacle? base)⟩

/-- The first obstacle ends the work if nothing may be passed over. -/
def WalkMode.check (mode : WalkMode) (obstacles : List Obstacle) : Except ScanFault Unit :=
  match mode, obstacles with
  | .failFast, o :: _ => .error o.fault
  | _, _ => .ok ()

namespace Plan

/-- Whether the name of a file ends with a point and an extension, with something in front. -/
def hasExtension (extensions : List String) (file : String) : Bool :=
  extensions.any fun ext =>
    match Text.before? ext.toList (Path.leaf file).toList with
    | some stem => stem.length ≠ 1 && stem.getLast? == some '.'
    | none => false

/-- A file with its content, or why it cannot be read. -/
structure Reading where
  file : String
  content : Except DiskFault String

def read (d : Disk) (p : Plan) (file : String) : Reading :=
  ⟨file, d.readLenient (Place.join p.base file)⟩

def Reading.text? (r : Reading) : Option (String × String) :=
  match r.content with
  | .ok text => some (r.file, text)
  | .error _ => none

def Reading.obstacle? (base : String) (r : Reading) : Option Obstacle :=
  match r.content with
  | .ok _ => none
  | .error cause => some (.onReading r.file (Place.join base r.file) cause)

def matchers (p : Plan) : List Matcher := p.patterns.map (·.groupTexts)

/-- The resolver for a list of files. -/
def resolver (p : Plan) (files : List String) : Resolver :=
  ⟨Std.HashSet.ofList files, p.extensions, p.aliases⟩

/-- The survey of files with their contents. -/
def ofContents (p : Plan) (contents : List (String × String)) (issues : List Issue) : Survey :=
  let files := contents.map Prod.fst
  let resolver := p.resolver files
  { base := p.base
    tree := .ofFiles files
    files
    records := .ofList (contents.map fun (file, text) =>
      (file, FileImports.ofContent resolver p.matchers file text))
    issues }

/-- The files of the walk that count, read. -/
def readings (d : Disk) (p : Plan) (walk : Walk) : List Reading :=
  (walk.files.filter (hasExtension p.extensions)).map (p.read d)

/-- Makes the survey: first the walk, then the reading of the files that count, either of which ends
it at an obstacle if nothing may be passed over. If nothing was asked for, the disk is not looked
at. -/
def survey (d : Disk) (p : Plan) : Except ScanFault Survey :=
  if p.isUnscoped then .ok (.empty p.base)
  else do
    let walk := Walk.ofDisk d p.skipDirs p.base
    p.mode.check walk.obstacles
    let readings := p.readings d walk
    let unread := readings.filterMap (·.obstacle? p.base)
    p.mode.check unread
    return p.ofContents (readings.filterMap (·.text?)) ((walk.obstacles ++ unread).map (·.issue))

end Plan

end ImportSurvey
