import ImportSurvey.Disk.Basic
import ImportSurvey.ScanFault
import ImportSurvey.Settings.Basic

namespace ImportSurvey

/-- Reads the settings file at a place. The reason given for a text that is none stands for the
message of a library. -/
def SettingsFile.read (d : Disk) (place : String) : Except ScanFault SettingsFile :=
  match d.readText place with
  | .error cause => .error (.disk cause place)
  | .ok text =>
    match SettingsFile.ofText? text with
    | some file => .ok file
    | none => .error (.settings place "the text is no settings file")

namespace Settings

/-- The settings files of a folder and the folders above it, outermost first. -/
def filesAbove (d : Disk) (folder : String) : List String :=
  ((Place.chain folder).map fun outer => Place.join outer SettingsFile.name).filter d.isFile

/-- Reads files and lays them over the settings one after the other. -/
def applyFiles (d : Disk) (s : Settings) (places : List String) : Except ScanFault Settings :=
  places.foldlM (fun s place => (SettingsFile.read d place).map s.apply) s

/-- The settings for a base folder, from the files that apply to it. -/
def load (d : Disk) (base : String) : Except ScanFault Settings :=
  match d.realPlace base with
  | .error cause => .error (.disk cause base)
  | .ok base => applyFiles d (ofBase base) (filesAbove d base)

end Settings

end ImportSurvey
