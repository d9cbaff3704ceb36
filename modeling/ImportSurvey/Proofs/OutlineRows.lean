import Mathlib.Algebra.BigOperators.Group.Finset.Basic
import Mathlib.Data.List.Dedup
import ImportSurvey.Proofs.OutlineOrder

namespace ImportSurvey

open ImportSurvey.Path (descent)

namespace FolderTree

variable {t : FolderTree} {folder : String}

theorem normal_of_mem_names {files : List String} (normal : ∀ file ∈ files, Path.Normal file)
    (h : folder ∈ (ofFiles files).names) : Path.Normal folder := by
  obtain ⟨file, hfile, rfl⟩ := mem_names_ofFiles.mp h
  exact Path.normal_parent (normal file hfile)

end FolderTree

namespace Report.Outline

variable {files : List String} {folder : String}

end Report.Outline

end ImportSurvey
