import ImportSurvey.Command.Run
import ImportSurvey.Proofs.CatalogLookup
import ImportSurvey.Proofs.RosterOrder

namespace ImportSurvey.Settings

section Names

variable {old new : List String}

end Names

section OverFiles

variable {base : String} {files : List SettingsFile}

end OverFiles

end ImportSurvey.Settings
