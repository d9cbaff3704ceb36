import ImportSurvey.Command.Line
import ImportSurvey.Command.Run

namespace ImportSurvey.Program

/-- A copy of the disk under way, from its root. -/
abbrev Copying := StateT DiskEntry IO

/-- The entry at the end of a path of names. -/
def entryAt? (root : DiskEntry) (names : List String) : Option DiskEntry :=
  names.foldlM (fun e name => e.entries.lookup name) root

def put (names : List String) (e : DiskEntry) : Copying Unit := modify (DiskEntry.putAt e names)

/-- The place that names lead to, as the system gives it for the entries of folders. -/
def realEntry (names : List String) : IO.FS.DirEntry :=
  ⟨Place.ofNames names.dropLast, names.getLast?.getD "."⟩

def kind? (e : IO.FS.DirEntry) : IO (Option IO.FS.FileType) := do
  try return some (← e.path.symlinkMetadata).type catch _ => return none

def readFile (e : IO.FS.DirEntry) : IO DiskEntry := do
  try return .file true (← IO.FS.readBinFile e.path).data.toList catch _ => return .file false []

/-- Where a link leads; nothing if it leads nowhere. -/
def readLink (e : IO.FS.DirEntry) : IO String := do
  if ← e.path.pathExists then return (← IO.FS.realPath e.path).toString else return ""

/-- Copies what stands on the way to a place, counted from a folder, and tells which names lead
there. -/
partial def copyWay (names : List String) : List String → Copying (Option (List String))
  | [] => return some names
  | part :: rest => do
    if part == "" || part == "." then copyWay names rest
    else if part == ".." then copyWay names.dropLast rest
    else
      let here := names ++ [part]
      let e := realEntry here
      match ← kind? e with
      | some .dir =>
        if (entryAt? (← get) here).isNone then put here (.folder true [])
        copyWay here rest
      | some .symlink =>
        let target ← readLink e
        put here (.link target)
        if target.isEmpty then return none else copyWay [] (Place.parts target ++ rest)
      | some .file =>
        put here (← readFile e)
        return some here
      | _ => return none

/-- The files that a command looks for by name, and that may be links. -/
def namedFiles : List String := SettingsFile.name :: PathMappings.fileNames

/-- Copies everything below a folder, but not what lies in folders that are always skipped. -/
partial def copyTree (names : List String) : Copying DiskEntry := do
  try
    let found := (← (realEntry names).path.readDir).qsort fun a b => a.fileName < b.fileName
    let mut entries : Array (String × DiskEntry) := #[]
    for e in found do
      match ← kind? e with
      | some .dir =>
        let inner ←
          if Settings.skippedAlways.contains e.fileName then pure (.folder true [])
          else copyTree (names ++ [e.fileName])
        entries := entries.push (e.fileName, inner)
      | some .symlink =>
        let target ← readLink e
        if namedFiles.contains e.fileName then
          let _ ← copyWay [] (Place.parts target)
        entries := entries.push (e.fileName, .link target)
      | some .file => entries := entries.push (e.fileName, ← readFile e)
      | _ => pure ()
    return .folder true entries.toList
  catch _ => return .folder false []

/-- Copies what a command with a base folder may look at: the way there, everything below, and the
settings files above. -/
def copyFor (base workFolder : String) : Copying Unit := do
  let place := Place.join workFolder base
  match ← copyWay [] (Place.parts place) with
  | none => return
  | some names =>
    for n in List.range (names.length + 1) do
      let _ ← copyWay (names.take n) [SettingsFile.name]
    match entryAt? (← get) names with
    | some (.folder _ _) => put names (← copyTree names)
    | _ => return

def diskFor (base : String) : IO Disk := do
  let workFolder := (← IO.currentDir).toString
  let (_, root) ← (copyFor base workFolder).run (.folder true [])
  return ⟨root, workFolder⟩

def coloured : IO Bool := do
  return Report.Style.wanted (← IO.getEnv "CLICOLOR_FORCE") (← IO.getEnv "NO_COLOR")
    (← IO.getEnv "CLICOLOR") (← (← IO.getStdout).isTty)

/-- Carries out a command and gives its exit code. -/
def runCommand (c : Command) : IO ExitCode := do
  let d ← diskFor c.options.base
  let coloured ← coloured
  match c.run d coloured with
  | .ok a =>
    IO.eprint (Report.unlines a.notes)
    IO.print (Report.unlines a.output)
    return a.exit
  | .error f =>
    IO.eprintln (Report.Style.paint coloured .red "Error:" ++ " " ++ f.text)
    return .error

/-- Carries out a command line. -/
def run (args : List String) : IO ExitCode := do
  match CommandLine.read args with
  | .error .help =>
    IO.print (Report.unlines CommandLine.helpLines)
    return .success
  | .error .version =>
    IO.print CommandLine.versionText
    return .success
  | .error (.refused why) =>
    IO.eprintln ("error: " ++ why.text)
    return .invalidInput
  | .ok r =>
    match r.command with
    | some c => runCommand c
    | none =>
      IO.print (Report.unlines CommandLine.helpLines)
      return .success

end ImportSurvey.Program

def main (args : List String) : IO UInt32 := do
  return (← ImportSurvey.Program.run args).number.toUInt32
