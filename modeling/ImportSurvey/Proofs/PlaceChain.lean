import Mathlib.Data.List.Induction
import Mathlib.Data.List.Infix
import ImportSurvey.Proofs.DiskNames
import ImportSurvey.Proofs.PlaceParts

namespace ImportSurvey.Place

open DiskEntry (LegalName)

/-- The names that make up a place. -/
def names (place : String) : List String := (parts place).filter (· ≠ "")

variable {names front : List String} {name last : String}

theorem parts_ofNames (legal : ∀ name ∈ names, LegalName name) :
    parts (ofNames names) = "" :: if names = [] then [""] else names := by
  have hcut : parts (ofNames names) = Path.segments ("" ++ "/" ++ Path.ofSegments names) := rfl
  rw [hcut, Path.segments_append_slash]
  by_cases hne : names = []
  · rw [hne]
    decide
  · rw [Path.segments_ofSegments hne fun name hn => (legal name hn).2, if_neg hne]
    rfl

end ImportSurvey.Place
