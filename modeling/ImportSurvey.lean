import ImportSurvey.Alias
import ImportSurvey.Catalog
import ImportSurvey.Command.Fault
import ImportSurvey.Command.Line
import ImportSurvey.Command.Request
import ImportSurvey.Command.Run
import ImportSurvey.Disk.Basic
import ImportSurvey.Disk.Entry
import ImportSurvey.Disk.Fault
import ImportSurvey.Disk.Place
import ImportSurvey.Disk.Walk
import ImportSurvey.Extraction
import ImportSurvey.FileImports
import ImportSurvey.Folder.Graph
import ImportSurvey.Folder.Tree
import ImportSurvey.Json.Comments
import ImportSurvey.Json.Printer
import ImportSurvey.Json.Reader
import ImportSurvey.Json.Value
import ImportSurvey.Language
import ImportSurvey.Main
import ImportSurvey.Path.Basic
import ImportSurvey.PathMappings
import ImportSurvey.Pattern.Basic
import ImportSurvey.Pattern.Expr
import ImportSurvey.Pattern.Flags
import ImportSurvey.Pattern.Program
import ImportSurvey.Pattern.Reader
import ImportSurvey.Pattern.Search
import ImportSurvey.Pattern.Size
import ImportSurvey.Proofs.AddedFile
import ImportSurvey.Proofs.AliasFolders
import ImportSurvey.Proofs.AliasOrder
import ImportSurvey.Proofs.AliasPairs
import ImportSurvey.Proofs.AliasPrecedence
import ImportSurvey.Proofs.AliasRoutes
import ImportSurvey.Proofs.AliasStems
import ImportSurvey.Proofs.CatalogLookup
import ImportSurvey.Proofs.CommentParts
import ImportSurvey.Proofs.CommentPieces
import ImportSurvey.Proofs.CountedFiles
import ImportSurvey.Proofs.CrowdedExclusion
import ImportSurvey.Proofs.CrowdedOrder
import ImportSurvey.Proofs.DiskFollow
import ImportSurvey.Proofs.DiskLook
import ImportSurvey.Proofs.DiskNames
import ImportSurvey.Proofs.DiskRemoval
import ImportSurvey.Proofs.DumpNotes
import ImportSurvey.Proofs.ExclusionOrder
import ImportSurvey.Proofs.ExclusionSpelling
import ImportSurvey.Proofs.ExtractedTokens
import ImportSurvey.Proofs.FolderEdges
import ImportSurvey.Proofs.FolderFiles
import ImportSurvey.Proofs.FolderOrder
import ImportSurvey.Proofs.Folds
import ImportSurvey.Proofs.GraphExclusion
import ImportSurvey.Proofs.ImportViews
import ImportSurvey.Proofs.JsonSpacing
import ImportSurvey.Proofs.JsonSteps
import ImportSurvey.Proofs.JsonStrings
import ImportSurvey.Proofs.JsonWords
import ImportSurvey.Proofs.MappingComments
import ImportSurvey.Proofs.MappingTargets
import ImportSurvey.Proofs.ModuleNames
import ImportSurvey.Proofs.MutualPairs
import ImportSurvey.Proofs.OutlineOrder
import ImportSurvey.Proofs.OutlineRows
import ImportSurvey.Proofs.OutwardImports
import ImportSurvey.Proofs.PathCancelling
import ImportSurvey.Proofs.PathDescent
import ImportSurvey.Proofs.PathJoin
import ImportSurvey.Proofs.PathParent
import ImportSurvey.Proofs.PathSegments
import ImportSurvey.Proofs.PathSplitting
import ImportSurvey.Proofs.PathWithin
import ImportSurvey.Proofs.PlaceChain
import ImportSurvey.Proofs.PlaceParts
import ImportSurvey.Proofs.RealPlaces
import ImportSurvey.Proofs.RelativeSpelling
import ImportSurvey.Proofs.Resolution
import ImportSurvey.Proofs.RosterOrder
import ImportSurvey.Proofs.StableSorts
import ImportSurvey.Proofs.StrictDump
import ImportSurvey.Proofs.SurveyCoherence
import ImportSurvey.Proofs.SurveyConfinement
import ImportSurvey.Proofs.SurveyContents
import ImportSurvey.Proofs.SurveyCounting
import ImportSurvey.Proofs.SurveyDependence
import ImportSurvey.Proofs.SurveyExclusion
import ImportSurvey.Proofs.TextBytes
import ImportSurvey.Proofs.TextCuts
import ImportSurvey.Proofs.TokenMarkers
import ImportSurvey.Proofs.UnreadFiles
import ImportSurvey.Proofs.WalkFiles
import ImportSurvey.Proofs.WalkModes
import ImportSurvey.Proofs.WalkPaths
import ImportSurvey.Proofs.WalkSights
import ImportSurvey.Proofs.WalkthroughEdges
import ImportSurvey.Proofs.WalkthroughImports
import ImportSurvey.Proofs.WalkthroughIndex
import ImportSurvey.Report.Crowded
import ImportSurvey.Report.Dump
import ImportSurvey.Report.Json
import ImportSurvey.Report.Outline
import ImportSurvey.Report.Style
import ImportSurvey.Report.Walkthrough
import ImportSurvey.Resolver
import ImportSurvey.Roster
import ImportSurvey.Scan
import ImportSurvey.ScanFault
import ImportSurvey.Settings.Basic
import ImportSurvey.Settings.Cascade
import ImportSurvey.Settings.File
import ImportSurvey.Settings.Plan
import ImportSurvey.Survey
import ImportSurvey.Text.Cut
import ImportSurvey.Text.Digits
import ImportSurvey.Text.Utf8
import ImportSurvey.Token
import ImportSurvey.Toml.Gap
import ImportSurvey.Toml.Moment
import ImportSurvey.Toml.Number
import ImportSurvey.Toml.Quoted
import ImportSurvey.Toml.Reader
import ImportSurvey.Toml.Table
import ImportSurvey.Toml.Value
import ImportSurvey.Unicode.Ages
import ImportSurvey.Unicode.Breaks
import ImportSurvey.Unicode.CaseOrbits
import ImportSurvey.Unicode.Categories
import ImportSurvey.Unicode.CodeSet
import ImportSurvey.Unicode.Folding
import ImportSurvey.Unicode.Property
import ImportSurvey.Unicode.ScriptExtensions
import ImportSurvey.Unicode.Scripts
import ImportSurvey.Unicode.Traits
import ImportSurvey.Proofs.WalkthroughText

