namespace ImportSurvey

/-- What may be said about a survey on the command line; what is not said is left to the settings
files. -/
structure ScanOptions where
  base : String := "."
  languages : List String := []
  extensions : List String := []
  patterns : List String := []
  skip : List String := []
  exclude : List String := []
  excludeCrowded : Bool := false
  crowdedFrom : Option Nat := none
  /-- Aliases as stem and folder with an equals sign between them. -/
  aliases : List String := []
  noAliases : Bool := false
  noMappings : Bool := false
  bestEffort : Bool := false
deriving DecidableEq, Repr

/-- What is done with the survey. -/
inductive Task where
  /-- Print all of it, and perhaps fail if there are pairs of folders with imports both ways. -/
  | dump (json strict : Bool)
  /-- Print one page of the walkthrough. -/
  | review (page : Nat)
  /-- List the crowded folders, and perhaps fail if there are any. -/
  | listCrowded (json strict : Bool)
deriving DecidableEq, Repr

/-- A task with the options of its survey. -/
structure Command where
  task : Task
  options : ScanOptions
deriving DecidableEq, Repr

/-- A command line as a whole. -/
structure Request where
  verbose : Bool
  command : Option Command
deriving DecidableEq, Repr

end ImportSurvey
