import Mathlib.Data.List.Forall2
import Mathlib.Data.List.Nodup
import ImportSurvey.Proofs.FolderFiles
import ImportSurvey.Proofs.PathDescent
import ImportSurvey.Report.Outline

namespace ImportSurvey.Report.Outline

open ImportSurvey.Path (descent ofDescent)

variable {all : List String} {folder kid f : String} {level : Nat}

namespace Connected

end Connected

end ImportSurvey.Report.Outline
